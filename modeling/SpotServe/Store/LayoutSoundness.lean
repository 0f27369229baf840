import SpotServe.Store.DeviceLayout
import SpotServe.Library.Runs

/-!
# When the device layout is sound

Both functions of `DeviceLayout` walk over the device map once.  What they compute is described
by one list: the records in the order in which they were first met, each with the device of the
name that met it (`placements`).  On every device the placed records are packed from address 0 on,
which gives the copy chunks, the running offsets and the memory sizes at the same time (`Laid`,
`MemoryLaid`).

A name that meets a record again is given the address of that record on the *first* device.  So
the layout is sound exactly when no record with bytes is named on two devices
(`layoutSound_iff`).
-/

namespace SpotServe
namespace Store

open Py Packing

variable {δ : Type*} [DecidableEq δ]

/-! ## The records in the order they are placed -/

/-- A record met again is not placed again. -/
def place (placed : List (Record × δ)) (item : Record × δ) : List (Record × δ) :=
  if item.1 ∈ placed.map Prod.fst then placed else placed ++ [item]

/-- The records a part of the device map names, with their devices. -/
def recordsOf (tensorIndex : TensorIndex) (items : List (String × δ)) : List (Record × δ) :=
  items.filterMap fun item => (tensorIndex.get? item.1).map fun record => (record, item.2)

/-- The records placed by a part of the device map. -/
def placements (tensorIndex : TensorIndex) (items : List (String × δ)) : List (Record × δ) :=
  (recordsOf tensorIndex items).foldl place []

/-- The placed records of one device. -/
def onDevice (placed : List (Record × δ)) (device : δ) : List Record :=
  (placed.filter fun item => item.2 = device).map Prod.fst

omit [DecidableEq δ] in
theorem placements_snoc {tensorIndex : TensorIndex} {name : String} {record : Record}
    (hname : tensorIndex.get? name = some record) (items : List (String × δ)) (device : δ) :
    placements tensorIndex (items ++ [(name, device)]) =
      place (placements tensorIndex items) (record, device) := by
  simp [placements, recordsOf, hname]

theorem onDevice_snoc (placed : List (Record × δ)) (record : Record) (device device' : δ) :
    onDevice (placed ++ [(record, device)]) device' =
      onDevice placed device' ++ if device = device' then [record] else [] := by
  unfold onDevice
  rw [List.filter_append, List.map_append]
  by_cases h : device = device' <;> simp [h]

theorem mem_onDevice {placed : List (Record × δ)} {record : Record} {device : δ} :
    record ∈ onDevice placed device ↔ (record, device) ∈ placed := by
  simp [onDevice]

omit [DecidableEq δ] in
theorem nodup_place {placed : List (Record × δ)} (h : (placed.map Prod.fst).Nodup)
    (item : Record × δ) : ((place placed item).map Prod.fst).Nodup := by
  unfold place
  split_ifs with hitem
  · exact h
  · rw [List.map_append, List.nodup_append]
    refine ⟨h, List.nodup_singleton _, ?_⟩
    intro a ha b hb hab
    rw [List.map_singleton, List.mem_singleton] at hb
    exact hitem (hb ▸ hab ▸ ha)

omit [DecidableEq δ] in
/-- A record is placed on one device only. -/
theorem device_unique {placed : List (Record × δ)} (h : (placed.map Prod.fst).Nodup)
    {record : Record} {d d' : δ} (hd : (record, d) ∈ placed) (hd' : (record, d') ∈ placed) :
    d = d' :=
  congrArg Prod.snd (List.inj_on_of_nodup_map h hd hd' rfl)

omit [DecidableEq δ] in
theorem nodup_placements (tensorIndex : TensorIndex) (items : List (String × δ)) :
    ((placements tensorIndex items).map Prod.fst).Nodup := by
  unfold placements
  generalize recordsOf tensorIndex items = records
  suffices h : ∀ placed : List (Record × δ), (placed.map Prod.fst).Nodup →
      ((records.foldl place placed).map Prod.fst).Nodup from h [] (by simp)
  induction records with
  | nil => intro placed h; exact h
  | cons item records ih => intro placed h; exact ih _ (nodup_place h item)

/-! ## The offsets loop -/

/-- The copy chunk of a packed record. -/
def chunkAt (packed : Record × ℕ) : CopyChunk := ⟨packed.1.offset, packed.1.size, packed.2, 0⟩

/-- The addresses of the records placed on a device. -/
def packed (placed : List (Record × δ)) (device : δ) : List (Record × ℕ) :=
  pack Record.size 0 (onDevice placed device)

theorem packed_snoc (placed : List (Record × δ)) (record : Record) (device device' : δ) :
    packed (placed ++ [(record, device)]) device' = packed placed device' ++
      if device = device' then [(record, total Record.size (onDevice placed device'))] else [] := by
  unfold packed
  rw [onDevice_snoc, pack_append]
  split_ifs <;> simp [pack]

/-- What the state of `calculate_tensor_device_offsets` says after the names `done`, when
`placed` are the records placed so far. -/
structure Laid (tensorIndex : TensorIndex) (placed : List (Record × δ))
    (done : List (String × δ)) (st : OffsetState δ) : Prop where
  chunkKeys : st.tensorCopyChunks.keys = st.tensorDeviceOffsets.keys
  offsetKeys : st.deviceOffset.keys = st.tensorDeviceOffsets.keys
  chunks : ∀ d, chunksOf st.tensorCopyChunks d = (packed placed d).map chunkAt
  next : ∀ d, (st.deviceOffset.get? d).getD 0 = total Record.size (onDevice placed d)
  record : ∀ r o, st.tensorRecord.get? r = some o ↔ ∃ d, (r, o) ∈ packed placed d
  named : ∀ name d, (name, d) ∈ done → ∃ r o, tensorIndex.get? name = some r ∧
    lookupOffset st.tensorDeviceOffsets d name = some o ∧ st.tensorRecord.get? r = some o

theorem laid_empty (tensorIndex : TensorIndex) :
    Laid tensorIndex ([] : List (Record × δ)) [] ⟨.empty, .empty, .empty, .empty⟩ where
  chunkKeys := rfl
  offsetKeys := rfl
  chunks d := rfl
  next d := rfl
  record r o := by simp [packed, onDevice, pack]
  named name d h := absurd h (by simp)

section Step

variable {tensorIndex : TensorIndex} {placed : List (Record × δ)} {done : List (String × δ)}
  {st : OffsetState δ}

/-- Opening a device changes no lookup that the invariant makes. -/
theorem Laid.openDevice (h : Laid tensorIndex placed done st) (device : δ) :
    Laid tensorIndex placed done (st.openDevice device) := by
  unfold OffsetState.openDevice
  split_ifs with hdev
  · exact h
  · have hchunk : st.tensorCopyChunks.get? device = none := by
      rw [OrderedDict.get?_eq_none_iff, h.chunkKeys]
      exact hdev
    have hoff : st.deviceOffset.get? device = none := by
      rw [OrderedDict.get?_eq_none_iff, h.offsetKeys]
      exact hdev
    refine ⟨?_, ?_, ?_, ?_, h.record, ?_⟩
    · simp only [OrderedDict.keys_set, h.chunkKeys]
    · simp only [OrderedDict.keys_set, h.offsetKeys]
    · intro d
      rw [← h.chunks d, chunksOf, chunksOf, OrderedDict.get?_set]
      by_cases hd : device = d
      · rw [if_pos hd, ← hd, hchunk]
        rfl
      · rw [if_neg hd]
    · intro d
      rw [← h.next d, OrderedDict.get?_set]
      by_cases hd : device = d
      · rw [if_pos hd, ← hd, hoff]
        rfl
      · rw [if_neg hd]
    · intro name d hmem
      obtain ⟨r, o, hr, hlook, hrec⟩ := h.named name d hmem
      refine ⟨r, o, hr, ?_, hrec⟩
      have hne : device ≠ d := by
        rintro rfl
        rw [lookupOffset, (OrderedDict.get?_eq_none_iff _).mpr hdev] at hlook
        exact absurd hlook (by simp)
      rwa [lookupOffset, OrderedDict.get?_set_of_ne _ _ hne]

theorem OffsetState.mem_keys_openDevice (st : OffsetState δ) (device : δ) :
    device ∈ (st.openDevice device).tensorDeviceOffsets.keys := by
  unfold OffsetState.openDevice
  split_ifs with hdev
  · exact hdev
  · rw [OrderedDict.mem_keys_iff]
    exact ⟨_, OrderedDict.get?_set_self _ _ _⟩

theorem lookupOffset_setOffset (st : OffsetState δ) (device d : δ) (name n : String) (o : ℕ) :
    lookupOffset (st.setOffset device name o).tensorDeviceOffsets d n =
      if device = d ∧ name = n then some o else lookupOffset st.tensorDeviceOffsets d n := by
  unfold lookupOffset OffsetState.setOffset
  rw [OrderedDict.get?_set]
  by_cases hd : device = d
  · subst hd
    rw [if_pos rfl, Option.bind_some, OrderedDict.get?_set]
    by_cases hn : name = n
    · rw [if_pos hn, if_pos ⟨rfl, hn⟩]
    · rw [if_neg hn, if_neg (fun h => hn h.2)]
      cases st.tensorDeviceOffsets.get? device <;> rfl
  · rw [if_neg hd, if_neg (fun h => hd h.1)]

/-- The records known to the state are the placed ones. -/
theorem Laid.mem_placed_iff (h : Laid tensorIndex placed done st) (r : Record) :
    r ∈ placed.map Prod.fst ↔ ∃ o, st.tensorRecord.get? r = some o := by
  constructor
  · intro hr
    obtain ⟨⟨r', d⟩, hmem, rfl⟩ := List.mem_map.mp hr
    obtain ⟨o, ho⟩ := exists_of_mem Record.size (mem_onDevice.mpr hmem) 0
    exact ⟨o, (h.record r' o).mpr ⟨d, ho⟩⟩
  · rintro ⟨o, ho⟩
    obtain ⟨d, hd⟩ := (h.record r o).mp ho
    exact List.mem_map.mpr ⟨(r, d), mem_onDevice.mp (mem_of_mem_pack Record.size hd), rfl⟩

/-- Naming a record whose address is known. -/
theorem Laid.setOffset (h : Laid tensorIndex placed done st) {device : δ} {name : String}
    {r : Record} {o : ℕ} (hdev : device ∈ st.tensorDeviceOffsets.keys)
    (hname : tensorIndex.get? name = some r) (hrec : st.tensorRecord.get? r = some o)
    (hnew : name ∉ done.map Prod.fst) :
    Laid tensorIndex placed (done ++ [(name, device)]) (st.setOffset device name o) := by
  have hkeys : (st.setOffset device name o).tensorDeviceOffsets.keys =
      st.tensorDeviceOffsets.keys := by
    rw [OffsetState.setOffset, OrderedDict.keys_set, if_pos hdev]
  refine ⟨h.chunkKeys.trans hkeys.symm, h.offsetKeys.trans hkeys.symm, h.chunks, h.next,
    h.record, ?_⟩
  intro n d hmem
  rcases List.mem_append.mp hmem with hmem | hmem
  · obtain ⟨r', o', hr', hlook, hrec'⟩ := h.named n d hmem
    have hne : ¬ (device = d ∧ name = n) := by
      rintro ⟨-, rfl⟩
      exact hnew (List.mem_map.mpr ⟨_, hmem, rfl⟩)
    refine ⟨r', o', hr', ?_, hrec'⟩
    rwa [lookupOffset_setOffset, if_neg hne]
  · obtain ⟨rfl, rfl⟩ := Prod.mk.inj (List.mem_singleton.mp hmem)
    refine ⟨r, o, hname, ?_, hrec⟩
    rw [lookupOffset_setOffset, if_pos ⟨rfl, rfl⟩]

/-- Placing a record that no device has yet. -/
theorem Laid.placeRecord (h : Laid tensorIndex placed done st) {device : δ} {r : Record}
    (hdev : device ∈ st.tensorDeviceOffsets.keys) (hnew : st.tensorRecord.get? r = none) :
    Laid tensorIndex (placed ++ [(r, device)]) done (st.placeRecord device r) := by
  refine ⟨?_, ?_, ?_, ?_, ?_, ?_⟩
  · simp only [OffsetState.placeRecord, OrderedDict.keys_set, h.chunkKeys, if_pos hdev]
  · simp only [OffsetState.placeRecord, OrderedDict.keys_set, h.offsetKeys, if_pos hdev]
  · intro d
    rw [packed_snoc, List.map_append, ← h.chunks d]
    simp only [OffsetState.placeRecord, chunksOf, OrderedDict.get?_set, h.next device]
    by_cases hd : device = d
    · subst hd
      simp [chunkAt]
    · simp [hd]
  · intro d
    rw [onDevice_snoc, total_append, ← h.next d]
    simp only [OffsetState.placeRecord, OrderedDict.get?_set]
    by_cases hd : device = d
    · subst hd
      simp
    · simp [hd]
  · intro r' o
    simp only [OffsetState.placeRecord, OrderedDict.get?_set, packed_snoc, List.mem_append,
      h.next device]
    by_cases hr : r = r'
    · subst hr
      have hno : ∀ d, (r, o) ∉ packed placed d := by
        intro d hd
        rw [(h.record r o).mpr ⟨d, hd⟩] at hnew
        exact absurd hnew (by simp)
      simp [hno, eq_comm]
    · have hne : ∀ d, (r', o) ∉ (if device = d then
          [(r, total Record.size (onDevice placed d))] else []) := by
        intro d
        split_ifs <;> simp [Ne.symm hr]
      simp only [if_neg hr, hne, or_false, h.record]
  · intro name d hmem
    obtain ⟨r', o, hr', hlook, hrec⟩ := h.named name d hmem
    refine ⟨r', o, hr', hlook, ?_⟩
    have hne : r ≠ r' := by
      rintro rfl
      rw [hnew] at hrec
      exact absurd hrec (by simp)
    simpa only [OffsetState.placeRecord, OrderedDict.get?_set, if_neg hne] using hrec

end Step

/-- One turn of the loop. -/
theorem Laid.step {tensorIndex : TensorIndex} {done : List (String × δ)} {st : OffsetState δ}
    (h : Laid tensorIndex (placements tensorIndex done) done st) {name : String} {device : δ}
    {r : Record} (hname : tensorIndex.get? name = some r) (hnew : name ∉ done.map Prod.fst) :
    ∃ st', deviceOffsetsStep tensorIndex st (name, device) = .ok st' ∧
      Laid tensorIndex (placements tensorIndex (done ++ [(name, device)]))
        (done ++ [(name, device)]) st' := by
  have hopen := h.openDevice device
  have hdev := st.mem_keys_openDevice device
  rw [placements_snoc hname]
  unfold deviceOffsetsStep
  simp only [hname]
  cases hrec : (st.openDevice device).tensorRecord.get? r with
  | some o =>
    refine ⟨_, rfl, ?_⟩
    rw [place, if_pos ((hopen.mem_placed_iff r).mpr ⟨o, hrec⟩)]
    exact hopen.setOffset hdev hname hrec hnew
  | none =>
    refine ⟨_, rfl, ?_⟩
    have hout : r ∉ (placements tensorIndex done).map Prod.fst := by
      rw [hopen.mem_placed_iff, hrec]
      simp
    rw [place, if_neg hout]
    refine (hopen.placeRecord hdev hrec).setOffset hdev hname ?_ hnew
    exact OrderedDict.get?_set_self _ _ _

/-- **The offsets loop.**  When the index knows every name, the loop ends with the layout of the
placed records. -/
theorem exists_laid {deviceMap : DeviceMap δ} {tensorIndex : TensorIndex}
    (hknown : ∀ name ∈ deviceMap.keys, name ∈ tensorIndex.keys) :
    ∃ st, deviceMap.entries.foldlM (deviceOffsetsStep tensorIndex)
        ⟨.empty, .empty, .empty, .empty⟩ = .ok st ∧
      Laid tensorIndex (placements tensorIndex deviceMap.entries) deviceMap.entries st := by
  refine Runs.foldlM_inv (fun done st => Laid tensorIndex (placements tensorIndex done) done st) ?_
    (laid_empty tensorIndex)
  rintro done ⟨name, device⟩ rest st hsplit h
  have hmem : (name, device) ∈ deviceMap.entries := by simp [hsplit]
  obtain ⟨r, hr⟩ := (OrderedDict.mem_keys_iff _).mp
    (hknown name (List.mem_map.mpr ⟨_, hmem, rfl⟩))
  have hnew : name ∉ done.map Prod.fst := by
    have hnodup := deviceMap.nodup
    rw [hsplit, List.map_append, List.map_cons, List.nodup_append] at hnodup
    intro hin
    exact hnodup.2.2 name hin name List.mem_cons_self rfl
  exact h.step hr hnew

/-! ## The memory loop -/

/-- What the state of `calculate_device_memory` says after the names `done`. -/
structure MemoryLaid (tensorIndex : TensorIndex) (done : List (String × δ))
    (st : MemoryState δ) : Prop where
  memory : ∀ d, st.deviceMemory.get? d =
    if d ∈ done.map Prod.snd then
      some (total Record.size (onDevice (placements tensorIndex done) d))
    else none
  record : ∀ r, r ∈ st.tensorRecord.keys ↔ r ∈ (placements tensorIndex done).map Prod.fst

omit [DecidableEq δ] in
/-- A placed record is the record of a name on that device. -/
theorem exists_name_of_mem_placements {tensorIndex : TensorIndex} {items : List (String × δ)}
    {r : Record} {d : δ} (h : (r, d) ∈ placements tensorIndex items) :
    ∃ name, (name, d) ∈ items ∧ tensorIndex.get? name = some r := by
  have hsub : ∀ (records placed : List (Record × δ)),
      (r, d) ∈ records.foldl place placed → (r, d) ∈ placed ∨ (r, d) ∈ records := by
    intro records
    induction records with
    | nil => intro placed h; exact Or.inl h
    | cons item records ih =>
      intro placed h
      rcases ih _ h with h | h
      · unfold place at h
        split_ifs at h
        · exact Or.inl h
        · rcases List.mem_append.mp h with h | h
          · exact Or.inl h
          · exact Or.inr (List.mem_cons.mpr (Or.inl (List.mem_singleton.mp h)))
      · exact Or.inr (List.mem_cons_of_mem _ h)
  rcases hsub _ _ h with h | h
  · exact absurd h (by simp)
  · obtain ⟨⟨name, d'⟩, hmem, heq⟩ := List.mem_filterMap.mp h
    obtain ⟨r', hr', hpair⟩ := Option.map_eq_some_iff.mp heq
    obtain ⟨rfl, rfl⟩ := Prod.mk.inj hpair
    exact ⟨name, hmem, hr'⟩

theorem onDevice_eq_nil {tensorIndex : TensorIndex} {items : List (String × δ)} {d : δ}
    (h : d ∉ items.map Prod.snd) : onDevice (placements tensorIndex items) d = [] := by
  refine List.eq_nil_iff_forall_not_mem.mpr fun r hr => ?_
  obtain ⟨name, hmem, -⟩ := exists_name_of_mem_placements (mem_onDevice.mp hr)
  exact h (List.mem_map.mpr ⟨_, hmem, rfl⟩)

/-- One turn of the memory loop. -/
theorem MemoryLaid.step {tensorIndex : TensorIndex} {done : List (String × δ)}
    {st : MemoryState δ} (h : MemoryLaid tensorIndex done st) {name : String} {device : δ}
    {r : Record} (hname : tensorIndex.get? name = some r) :
    ∃ st', deviceMemoryStep tensorIndex st (name, device) = .ok st' ∧
      MemoryLaid tensorIndex (done ++ [(name, device)]) st' := by
  unfold deviceMemoryStep
  simp only [hname]
  generalize hmem : (if device ∈ st.deviceMemory.keys then st.deviceMemory
    else st.deviceMemory.set device 0) = opened
  -- the entry of a device seen for the first time is the size of an empty layout
  have hopened : ∀ d, opened.get? d =
      if d ∈ (done ++ [(name, device)]).map Prod.snd then
        some (total Record.size (onDevice (placements tensorIndex done) d)) else none := by
    intro d
    have hd := h.memory d
    have hdevice := h.memory device
    rw [← hmem]
    by_cases hin : device ∈ done.map Prod.snd
    · rw [if_pos hin] at hdevice
      rw [if_pos ((OrderedDict.mem_keys_iff _).mpr ⟨_, hdevice⟩), hd]
      by_cases hdd : d = device
      · subst hdd
        simp [hin]
      · simp only [List.map_append, List.map_cons, List.map_nil, List.mem_append,
          List.mem_singleton, hdd, or_false]
    · rw [if_neg hin, OrderedDict.get?_eq_none_iff] at hdevice
      rw [if_neg hdevice, OrderedDict.get?_set, hd]
      by_cases hdd : device = d
      · subst hdd
        rw [if_pos rfl, onDevice_eq_nil hin]
        simp
      · simp only [List.map_append, List.map_cons, List.map_nil, List.mem_append,
          List.mem_singleton, if_neg hdd, Ne.symm hdd, or_false]
  by_cases hseen : r ∈ st.tensorRecord.keys
  · rw [if_pos hseen]
    refine ⟨_, rfl, ?_, ?_⟩
    · intro d
      rw [placements_snoc hname, place, if_pos ((h.record r).mp hseen)]
      exact hopened d
    · intro r'
      rw [placements_snoc hname, place, if_pos ((h.record r).mp hseen)]
      exact h.record r'
  · rw [if_neg hseen]
    refine ⟨_, rfl, ?_, ?_⟩
    · intro d
      rw [placements_snoc hname, place, if_neg (mt (h.record r).mpr hseen), onDevice_snoc,
        total_append, OrderedDict.get?_set, hopened d, hopened device]
      by_cases hdd : device = d
      · subst hdd
        simp
      · simp [hdd]
    · intro r'
      rw [placements_snoc hname, place, if_neg (mt (h.record r).mpr hseen), List.map_append,
        List.mem_append, ← h.record r', OrderedDict.keys_set, if_neg hseen, List.mem_append]
      simp

/-- **The memory loop.** -/
theorem exists_memoryLaid {deviceMap : DeviceMap δ} {tensorIndex : TensorIndex}
    (hknown : ∀ name ∈ deviceMap.keys, name ∈ tensorIndex.keys) :
    ∃ st, deviceMap.entries.foldlM (deviceMemoryStep tensorIndex) ⟨.empty, .empty⟩ = .ok st ∧
      MemoryLaid tensorIndex deviceMap.entries st := by
  refine Runs.foldlM_inv (MemoryLaid tensorIndex) ?_ ?_
  · rintro done ⟨name, device⟩ rest st hsplit h
    have hmem : (name, device) ∈ deviceMap.entries := by simp [hsplit]
    obtain ⟨r, hr⟩ := (OrderedDict.mem_keys_iff _).mp
      (hknown name (List.mem_map.mpr ⟨_, hmem, rfl⟩))
    exact h.step hr
  · refine ⟨fun d => ?_, fun r => ?_⟩
    · simp
    · simp [placements, recordsOf]

/-! ## Soundness of the layout -/

/-- The bytes of a placed record after the copy chunks of its device have run. -/
theorem executeCopyChunks_packed {B : Type*} (image : ℕ → B) (memory : ℕ → B)
    {placed : List (Record × δ)} {d : δ} {r : Record} {o i : ℕ} (h : (r, o) ∈ packed placed d)
    (hi : i < r.size) :
    executeCopyChunks image ((packed placed d).map chunkAt) memory (o + i) =
      image (r.offset + i) := by
  have hpairwise : ((packed placed d).map chunkAt).Pairwise
      fun x y => x.deviceOffset + x.size ≤ y.deviceOffset :=
    List.pairwise_map.mpr (pairwise_pack Record.size 0 (onDevice placed d))
  have hmem : chunkAt (r, o) ∈ (packed placed d).map chunkAt := List.mem_map.mpr ⟨_, h, rfl⟩
  exact copyAll_apply CopyChunk.offset CopyChunk.size CopyChunk.deviceOffset image memory
    hpairwise hmem hi

section Soundness

variable {B : Type*} (deviceMap : DeviceMap δ) (tensorIndex : TensorIndex) (image : ℕ → B)
  (initial : δ → ℕ → B)

/-- What a computed layout has to deliver once the copy chunks have run: the bytes of every name
are on its device, inside the memory computed for the device, and distinct records on a device
share no byte. -/
structure SoundLayout (offsets : OrderedDict δ (OrderedDict String ℕ))
    (chunks : OrderedDict δ (List CopyChunk)) (memory : OrderedDict δ ℕ) : Prop where
  held : ∀ name d, deviceMap.get? name = some d → ∃ r o, tensorIndex.get? name = some r ∧
    lookupOffset offsets d name = some o ∧ ∀ i < r.size,
      executeCopyChunks image (chunksOf chunks d) (initial d) (o + i) = image (r.offset + i)
  inside : ∀ name d r o, deviceMap.get? name = some d → tensorIndex.get? name = some r →
    lookupOffset offsets d name = some o →
    ∃ m, memory.get? d = some m ∧ ∀ i < r.size, o + i < m
  disjoint : ∀ name name' d r r' o o', deviceMap.get? name = some d →
    deviceMap.get? name' = some d → tensorIndex.get? name = some r →
    tensorIndex.get? name' = some r' → lookupOffset offsets d name = some o →
    lookupOffset offsets d name' = some o' → r ≠ r' →
    ∀ i < r.size, ∀ j < r'.size, o + i ≠ o' + j

/-- Both functions return, and what they return is a sound layout. -/
def LayoutSound : Prop :=
  ∃ offsets chunks memory,
    calculateTensorDeviceOffsets deviceMap tensorIndex = .ok (offsets, chunks) ∧
    calculateDeviceMemory deviceMap tensorIndex = .ok memory ∧
    SoundLayout deviceMap tensorIndex image initial offsets chunks memory

/-- Every name of the device map is in the index. -/
def NamesKnown : Prop := ∀ name ∈ deviceMap.keys, name ∈ tensorIndex.keys

/-- Names that share a record with bytes are mapped to the same device. -/
def SharedOnOneDevice : Prop :=
  ∀ name name' d d' r, deviceMap.get? name = some d → deviceMap.get? name' = some d' →
    tensorIndex.get? name = some r → tensorIndex.get? name' = some r → 0 < r.size → d = d'

variable {deviceMap tensorIndex}

theorem namesKnown_of_ok {result}
    (h : calculateTensorDeviceOffsets deviceMap tensorIndex = .ok result) :
    NamesKnown deviceMap tensorIndex := by
  intro name hname
  by_contra hout
  obtain ⟨d, hd⟩ := (OrderedDict.mem_keys_iff _).mp hname
  have hnone := (OrderedDict.get?_eq_none_iff tensorIndex).mpr hout
  have hraise : ∀ st : OffsetState δ, ∃ e, deviceOffsetsStep tensorIndex st (name, d) = .error e :=
    fun st => ⟨.tensorNotFound name, by simp only [deviceOffsetsStep, hnone]⟩
  obtain ⟨e, he⟩ := Runs.foldlM_error ((OrderedDict.mem_entries_iff _).mpr hd) hraise
    ⟨.empty, .empty, .empty, .empty⟩
  rw [calculateTensorDeviceOffsets, he] at h
  exact absurd h (by simp [Except.map])

/-- In a sound layout a name with bytes is mapped to the device its record was placed on:
elsewhere its address lies outside the memory or inside the range of another record. -/
theorem SoundLayout.device_eq {image : ℕ → B} {initial : δ → ℕ → B} {st : OffsetState δ}
    {memory : OrderedDict δ ℕ}
    (hlaid : Laid tensorIndex (placements tensorIndex deviceMap.entries) deviceMap.entries st)
    (hmem : ∀ d m, memory.get? d = some m →
      m = total Record.size (onDevice (placements tensorIndex deviceMap.entries) d))
    (hsound : SoundLayout deviceMap tensorIndex image initial st.tensorDeviceOffsets
      st.tensorCopyChunks memory)
    {name : String} {d home : δ} {r : Record} (hname : deviceMap.get? name = some d)
    (hr : tensorIndex.get? name = some r) (hsize : 0 < r.size)
    (hhome : (r, home) ∈ placements tensorIndex deviceMap.entries) : d = home := by
  by_contra hne
  obtain ⟨r₁, o, hr₁, hlook, hrec⟩ :=
    hlaid.named name d ((OrderedDict.mem_entries_iff _).mpr hname)
  rw [hr] at hr₁
  obtain rfl := Option.some.inj hr₁
  obtain ⟨m, hm, hin⟩ := hsound.inside name d r o hname hr hlook
  have hlt : o < 0 + total Record.size (onDevice (placements tensorIndex deviceMap.entries) d) := by
    have := hin 0 hsize
    rw [hmem d m hm] at this
    omega
  -- the address belongs to a record placed on `d`, which is another one
  obtain ⟨r', o', hpack, hlo, hhi⟩ := exists_mem_pack Record.size (Nat.zero_le o) hlt
  have hplaced := mem_onDevice.mp (mem_of_mem_pack Record.size hpack)
  have hrr : r ≠ r' := by
    rintro rfl
    exact hne (device_unique (nodup_placements tensorIndex _) hplaced hhome)
  obtain ⟨name', hname', hr'⟩ := exists_name_of_mem_placements hplaced
  obtain ⟨r₂, o₂, hr₂, hlook₂, hrec₂⟩ := hlaid.named name' d hname'
  rw [hr'] at hr₂
  obtain rfl := Option.some.inj hr₂
  rw [(hlaid.record r' o').mpr ⟨d, hpack⟩] at hrec₂
  obtain rfl := Option.some.inj hrec₂
  refine hsound.disjoint name name' d r r' o o' hname ((OrderedDict.mem_entries_iff _).mp hname')
    hr hr' hlook hlook₂ hrr 0 hsize (o - o') (by omega) (by omega)

/-- A layout whose shared records stay on one device is sound. -/
theorem soundLayout_of_shared {image : ℕ → B} {initial : δ → ℕ → B} {st : OffsetState δ}
    {memory : OrderedDict δ ℕ}
    (hlaid : Laid tensorIndex (placements tensorIndex deviceMap.entries) deviceMap.entries st)
    (hmem : ∀ name d, deviceMap.get? name = some d → memory.get? d =
      some (total Record.size (onDevice (placements tensorIndex deviceMap.entries) d)))
    (hshared : SharedOnOneDevice deviceMap tensorIndex) :
    SoundLayout deviceMap tensorIndex image initial st.tensorDeviceOffsets st.tensorCopyChunks
      memory := by
  -- the address of a name with bytes is the address of its record on the name's own device
  have haddress : ∀ name d r o, deviceMap.get? name = some d → tensorIndex.get? name = some r →
      lookupOffset st.tensorDeviceOffsets d name = some o → 0 < r.size →
      (r, o) ∈ packed (placements tensorIndex deviceMap.entries) d := by
    intro name d r o hname hr hlook hsize
    obtain ⟨r₁, o₁, hr₁, hlook₁, hrec⟩ :=
      hlaid.named name d ((OrderedDict.mem_entries_iff _).mpr hname)
    rw [hr] at hr₁
    rw [hlook] at hlook₁
    obtain rfl := Option.some.inj hr₁
    obtain rfl := Option.some.inj hlook₁
    obtain ⟨home, hpack⟩ := (hlaid.record r o).mp hrec
    obtain ⟨name', hname', hr'⟩ :=
      exists_name_of_mem_placements (mem_onDevice.mp (mem_of_mem_pack Record.size hpack))
    obtain rfl := hshared name name' d home r hname ((OrderedDict.mem_entries_iff _).mp hname')
      hr hr' hsize
    exact hpack
  refine ⟨?_, ?_, ?_⟩
  · intro name d hname
    obtain ⟨r, o, hr, hlook, -⟩ :=
      hlaid.named name d ((OrderedDict.mem_entries_iff _).mpr hname)
    refine ⟨r, o, hr, hlook, fun i hi => ?_⟩
    rw [hlaid.chunks d]
    exact executeCopyChunks_packed image (initial d)
      (haddress name d r o hname hr hlook (by omega)) hi
  · intro name d r o hname hr hlook
    refine ⟨_, hmem name d hname, fun i hi => ?_⟩
    have := (bounds_of_mem_pack Record.size (haddress name d r o hname hr hlook (by omega))).2
    omega
  · intro name name' d r r' o o' hname hname' hr hr' hlook hlook' hne i hi j hj
    exact disjoint_of_mem_pack Record.size hne (haddress name d r o hname hr hlook (by omega))
      (haddress name' d r' o' hname' hr' hlook' (by omega)) hi hj

variable (deviceMap tensorIndex)

/-- **Device layout.**  For every image and whatever the device memories held before, the layout
is sound exactly when the index knows all names and no record with bytes is named on two
devices. -/
theorem layoutSound_iff :
    LayoutSound deviceMap tensorIndex image initial ↔
      NamesKnown deviceMap tensorIndex ∧ SharedOnOneDevice deviceMap tensorIndex := by
  constructor
  · rintro ⟨offsets, chunks, memory, hoff, hmemory, hsound⟩
    have hknown := namesKnown_of_ok hoff
    refine ⟨hknown, ?_⟩
    obtain ⟨st, hst, hlaid⟩ := exists_laid hknown
    obtain ⟨mst, hmst, hmlaid⟩ := exists_memoryLaid hknown
    rw [calculateTensorDeviceOffsets, hst] at hoff
    rw [calculateDeviceMemory, hmst] at hmemory
    obtain ⟨rfl, rfl⟩ := Prod.mk.inj (Except.ok.inj hoff)
    obtain rfl := Except.ok.inj hmemory
    have hmem : ∀ d m, mst.deviceMemory.get? d = some m →
        m = total Record.size (onDevice (placements tensorIndex deviceMap.entries) d) := by
      intro d m hm
      rw [hmlaid.memory d] at hm
      split_ifs at hm
      exact (Option.some.inj hm).symm
    intro name name' d d' r hname hname' hr hr' hsize
    obtain ⟨r₁, o, hr₁, -, hrec⟩ :=
      hlaid.named name d ((OrderedDict.mem_entries_iff _).mpr hname)
    rw [hr] at hr₁
    obtain rfl := Option.some.inj hr₁
    obtain ⟨home, hpack⟩ := (hlaid.record r o).mp hrec
    have hhome := mem_onDevice.mp (mem_of_mem_pack Record.size hpack)
    exact (hsound.device_eq hlaid hmem hname hr hsize hhome).trans
      (hsound.device_eq hlaid hmem hname' hr' hsize hhome).symm
  · rintro ⟨hknown, hshared⟩
    obtain ⟨st, hst, hlaid⟩ := exists_laid hknown
    obtain ⟨mst, hmst, hmlaid⟩ := exists_memoryLaid hknown
    refine ⟨st.tensorDeviceOffsets, st.tensorCopyChunks, mst.deviceMemory, ?_, ?_,
      soundLayout_of_shared hlaid ?_ hshared⟩
    · rw [calculateTensorDeviceOffsets, hst]
      rfl
    · rw [calculateDeviceMemory, hmst]
      rfl
    · intro name d hname
      have hd : d ∈ deviceMap.entries.map Prod.snd :=
        List.mem_map.mpr ⟨_, (OrderedDict.mem_entries_iff _).mpr hname, rfl⟩
      rw [hmlaid.memory d, if_pos hd]

end Soundness

/-- Two names of one four-byte record. -/
def sharedIndex : TensorIndex := ⟨[("a", ⟨0, 4⟩), ("b", ⟨0, 4⟩)], by decide⟩

/-- The two names on two devices. -/
def splitMap : DeviceMap ℕ := ⟨[("a", 0), ("b", 1)], by decide⟩

/-- The second name gets an address in a memory of size 0. -/
theorem not_layoutSound_sharedIndex :
    ¬ LayoutSound splitMap sharedIndex (fun a => a) (fun _ _ => 0) := by
  rintro ⟨offsets, chunks, memory, hoff, hmemory, hsound⟩
  obtain ⟨rfl, rfl⟩ := Prod.mk.inj (Except.ok.inj hoff)
  obtain rfl := Except.ok.inj hmemory
  obtain ⟨m, hm, hin⟩ := hsound.inside "b" 1 ⟨0, 4⟩ 0 (by decide) (by decide) (by decide)
  have hzero : m = 0 := Option.some.inj (hm.symm.trans (by decide))
  have := hin 0 (by decide)
  omega

end Store
end SpotServe
