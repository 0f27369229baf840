import SpotServe.Store.Checkpoint
import SpotServe.Store.LayoutSoundness
import Mathlib.Data.List.Find
import Mathlib.Data.List.Induction

/-!
# When a loaded state dict is the saved one

The two halves meet at `Written`: what a checkpoint holds of a state dict.  `saveDict_written` is
the first half.  The second half starts from any such checkpoint: the layout of `LayoutSoundness`
is built over its records, `toHost` brings the image into the host chunks, `toGpu` runs the copy
chunks, and `restoreTensors` puts a view at the start of every record (`loadDict_of_loadable`).

What comes back is the saved state dict exactly when the load goes through (`Loadable`), no mapped
tensor with elements starts behind the beginning of its storage, and each is mapped to the device
on which its storage was placed (`roundTrips_iff`).
-/

namespace SpotServe
namespace Store

open Py Packing

/-! ## What a checkpoint holds -/

namespace StateDict

/-- Where the storage at an address begins in the image: behind those that are written before. -/
def imageOffset (sd : StateDict) (address : ℕ) : ℕ :=
  total (paddedSize sd.writtenSize) (sd.addresses.eraseDups.takeWhile (· ≠ address))

def imageSize (sd : StateDict) : ℕ := total (paddedSize sd.writtenSize) sd.addresses.eraseDups

/-- The record of a tensor: the place of its address, and its own size. -/
def recordOf (sd : StateDict) (t : Tensor) : Record := ⟨sd.imageOffset t.dataPtr, t.storageSize⟩

/-- The entries of all tensors. -/
def tensorIndex (sd : StateDict) : OrderedDict String TensorEntry :=
  sd.tensors.mapValues fun _ t => ⟨sd.recordOf t, t.shape, t.stride, t.dtype.str⟩

/-- The records of all tensors. -/
def records (sd : StateDict) : TensorIndex := sd.tensorIndex.mapValues fun _ entry => entry.record

variable {sd : StateDict} {name : String} {t : Tensor}

theorem addressOf_eq (h : sd.tensors.get? name = some t) : sd.addressOf name = t.dataPtr := by
  simp [addressOf, h]

theorem storageSizeOf_eq (h : sd.tensors.get? name = some t) :
    sd.storageSizeOf name = t.storageSize := by
  simp [storageSizeOf, h]

theorem get?_tensorDataIndex (h : name ∈ sd.tensors.keys) :
    sd.tensorDataIndex.get? name = some (sd.addressOf name, sd.storageSizeOf name) := by
  obtain ⟨t, ht⟩ := (OrderedDict.mem_keys_iff _).mp h
  rw [tensorDataIndex, OrderedDict.get?_mapValues, ht, addressOf_eq ht, storageSizeOf_eq ht]
  rfl

theorem get?_tensorIndex (h : sd.tensors.get? name = some t) :
    sd.tensorIndex.get? name = some ⟨sd.recordOf t, t.shape, t.stride, t.dtype.str⟩ := by
  rw [tensorIndex, OrderedDict.get?_mapValues, h]
  rfl

theorem get?_records (h : sd.tensors.get? name = some t) :
    sd.records.get? name = some (sd.recordOf t) := by
  rw [records, OrderedDict.get?_mapValues, get?_tensorIndex h]
  rfl

theorem mem_keys_records : name ∈ sd.records.keys ↔ name ∈ sd.tensors.keys := by
  rw [records, tensorIndex, OrderedDict.keys_mapValues, OrderedDict.keys_mapValues]

/-- A storage that is written with more than nothing. -/
theorem imageSize_ne_zero_iff :
    sd.imageSize ≠ 0 ↔ ∃ address ∈ sd.addresses, 0 < sd.writtenSize address := by
  have hpadded : ∀ address, paddedSize sd.writtenSize address = 0 ↔
      sd.writtenSize address = 0 := by
    intro address
    rw [paddedSize, padding]
    split_ifs <;> omega
  rw [imageSize, total, Ne, List.sum_eq_zero_iff]
  simp only [List.mem_map, List.mem_eraseDups, forall_exists_index, and_imp,
    forall_apply_eq_imp_iff₂, hpadded]
  push Not
  simp only [Nat.pos_iff_ne_zero]

end StateDict

/-- A checkpoint of a state dict: every storage once, as far as it is written, and the entries of
all tensors. -/
structure Written (maxSize : ℕ) (sd : StateDict) (memory : ℕ → ℕ → Byte) (checkpoint : Checkpoint) :
    Prop where
  sizes : checkpoint.files.map List.length = sd.partitions maxSize
  length : checkpoint.files.flatten.length = sd.imageSize
  bytes : ∀ name t, sd.tensors.get? name = some t → ∀ i < sd.writtenSize t.dataPtr,
    checkpoint.files.flatten[sd.imageOffset t.dataPtr + i]? = some (memory t.dataPtr i)
  index : checkpoint.tensorIndex = sd.tensorIndex

theorem nodup_eraseDups (addresses : List ℕ) : addresses.eraseDups.Nodup := by
  induction addresses using List.reverseRecOn with
  | nil => exact List.nodup_nil
  | append_singleton addresses address ih =>
    rw [eraseDups_snoc]
    split_ifs with hmem
    · rw [List.append_nil]
      exact ih
    · refine List.nodup_append.mpr ⟨ih, List.nodup_singleton _, ?_⟩
      intro a ha b hb hab
      rw [List.mem_singleton] at hb
      exact hmem (List.mem_eraseDups.mp (hb ▸ hab ▸ ha))

section Save

variable (maxSize : ℕ) (garbage memory : ℕ → ℕ → Byte) (sd : StateDict)

/-- **Saving** into a new directory. -/
theorem saveDict_written : Written maxSize sd memory (saveDict maxSize [] garbage memory sd) := by
  have hsaved : Saved maxSize memory sd.writtenSize sd.addressOf sd.tensors.keys
      (sd.tensors.keys.foldl (saveStep maxSize [] garbage memory sd.tensorDataIndex) {}) :=
    saveTensors_saved sd.tensors.nodup (fun _ hname => StateDict.get?_tensorDataIndex hname)
      (List.append_nil _).symm
  have hoffset : ∀ name t, sd.tensors.get? name = some t → ∃ offset,
      (sd.tensors.keys.foldl (saveStep maxSize [] garbage memory sd.tensorDataIndex)
        {}).tensorOffsets.get? name = some offset ∧ offset = sd.imageOffset t.dataPtr ∧
      (t.dataPtr, offset) ∈ imageLayout sd.writtenSize sd.addresses := by
    intro name t ht
    obtain ⟨offset, hoffset, hlayout⟩ :=
      hsaved.offsets name ((OrderedDict.mem_keys_iff _).mpr ⟨t, ht⟩)
    rw [StateDict.addressOf_eq ht] at hlayout
    have hplace := eq_total_of_mem_pack _ (nodup_eraseDups sd.addresses) hlayout
    rw [Nat.zero_add] at hplace
    exact ⟨offset, hoffset, hplace, hlayout⟩
  have hfiles : (saveDict maxSize [] garbage memory sd).files =
      (sd.tensors.keys.foldl (saveStep maxSize [] garbage memory sd.tensorDataIndex)
        {}).writer.files := by
    rw [saveDict, saveTensors]
    simp only [List.drop_nil, List.append_nil]
  refine ⟨?_, ?_, fun name t ht i hi => ?_, ?_⟩
  · rw [hfiles]
    exact hsaved.sizes
  · rw [hfiles]
    exact hsaved.length
  · obtain ⟨offset, -, hplace, hlayout⟩ := hoffset name t ht
    rw [hfiles, ← hplace]
    exact hsaved.bytes t.dataPtr offset hlayout i hi
  · have hentry : ∀ name t, sd.tensors.get? name = some t →
        (⟨⟨(((saveTensors maxSize [] garbage memory sd.tensorDataIndex
          sd.tensors.keys).1.get? name).getD 0), t.storageSize⟩, t.shape, t.stride,
          t.dtype.str⟩ : TensorEntry) = ⟨sd.recordOf t, t.shape, t.stride, t.dtype.str⟩ := by
      intro name t ht
      obtain ⟨offset, hget, hplace, -⟩ := hoffset name t ht
      rw [StateDict.recordOf, ← hplace, saveTensors]
      simp only [hget, Option.getD_some]
    exact OrderedDict.mapValues_congr hentry

/-- Memories that agree as far as the storages are written give the same checkpoint. -/
theorem saveDict_congr {memory' : ℕ → ℕ → Byte}
    (h : ∀ address, ∀ i < sd.writtenSize address, memory address i = memory' address i) :
    saveDict maxSize [] garbage memory sd = saveDict maxSize [] garbage memory' sd := by
  have hrun : sd.tensors.keys.foldl (saveStep maxSize [] garbage memory sd.tensorDataIndex) {} =
      sd.tensors.keys.foldl (saveStep maxSize [] garbage memory' sd.tensorDataIndex) {} :=
    saveTensors_congr sd.tensors.nodup (fun _ hname => StateDict.get?_tensorDataIndex hname) h
      (List.append_nil _).symm
  unfold saveDict saveTensors
  rw [hrun]

end Save

/-! ## The device map over the names -/

section Expand

variable {δ : Type*}

theorem mem_keys_foldl_set {names : List String} {device : δ} {p : String → Bool}
    {expanded : DeviceMap δ} {name : String}
    (h : name ∈ (names.foldl (fun expanded name =>
      if p name then expanded.set name device else expanded) expanded).keys) :
    name ∈ names ∨ name ∈ expanded.keys := by
  induction names generalizing expanded with
  | nil => exact Or.inr h
  | cons first rest ih =>
    rw [List.foldl_cons] at h
    rcases ih h with hrest | hkeys
    · exact Or.inl (List.mem_cons_of_mem _ hrest)
    · split_ifs at hkeys
      · rw [OrderedDict.mem_keys_iff] at hkeys
        obtain ⟨d, hd⟩ := hkeys
        rw [OrderedDict.get?_set] at hd
        split_ifs at hd with hname
        · exact Or.inl (hname ▸ List.mem_cons_self)
        · exact Or.inr ((OrderedDict.mem_keys_iff _).mpr ⟨d, hd⟩)
      · exact Or.inr hkeys

/-- Only names of the checkpoint are mapped. -/
theorem mem_names_of_mem_expandEntries {names : List String} {entries : List (String × δ)}
    {expanded : DeviceMap δ} (hexpanded : ∀ name ∈ expanded.keys, name ∈ names) {name : String}
    (h : name ∈ (expandEntries names entries expanded).keys) : name ∈ names := by
  induction entries generalizing expanded with
  | nil => exact hexpanded name h
  | cons entry rest ih =>
    obtain ⟨key, device⟩ := entry
    rw [expandEntries] at h
    split_ifs at h
    · have hset : name ∈ names ∨ name ∈ (.empty : DeviceMap δ).keys :=
        mem_keys_foldl_set (p := fun _ => true) (by simpa only [if_true] using h)
      rcases hset with hmem | hmem
      · exact hmem
      · exact absurd hmem (by simp)
    · refine ih (fun name hname => ?_) h
      rcases mem_keys_foldl_set hname with hmem | hmem
      · exact hmem
      · exact hexpanded name hmem

/-- The device map of a state dict, name by name. -/
def StateDict.expanded (sd : StateDict) (deviceMap : DeviceMap δ) : DeviceMap δ :=
  expandEntries sd.tensors.keys deviceMap.entries .empty

theorem StateDict.exists_tensor {sd : StateDict} {deviceMap : DeviceMap δ} {name : String} {d : δ}
    (h : (sd.expanded deviceMap).get? name = some d) : ∃ t, sd.tensors.get? name = some t := by
  have hempty : ∀ name ∈ (.empty : DeviceMap δ).keys, name ∈ sd.tensors.keys :=
    fun name hname => absurd hname (by simp)
  have hkey := (OrderedDict.mem_keys_iff _).mpr ⟨d, h⟩
  exact (OrderedDict.mem_keys_iff _).mp (mem_names_of_mem_expandEntries hempty hkey)

end Expand

/-! ## Where a record is placed -/

section Layout

variable {δ : Type*} [DecidableEq δ]

omit [DecidableEq δ] in
theorem mem_foldl_place {records placed : List (Record × δ)} {r : Record} {d : δ} :
    (r, d) ∈ records.foldl place placed ↔ (r, d) ∈ placed ∨
      r ∉ placed.map Prod.fst ∧ records.find? (fun item => item.1 = r) = some (r, d) := by
  induction records generalizing placed with
  | nil => simp
  | cons item records ih =>
    obtain ⟨r', d'⟩ := item
    rw [List.foldl_cons, ih, place, List.find?_cons]
    by_cases hplaced : r' ∈ placed.map Prod.fst
    · rw [if_pos hplaced]
      by_cases hr : r' = r
      · subst hr
        simp [hplaced]
      · simp [hr]
    · rw [if_neg hplaced]
      by_cases hr : r' = r
      · subst hr
        simp [hplaced, eq_comm]
      · simp [hr, Ne.symm hr]

omit [DecidableEq δ] in
/-- A record is placed on the device of the first name that has it. -/
theorem mem_placements_iff {tensorIndex : TensorIndex} {items : List (String × δ)} {r : Record}
    {d : δ} : (r, d) ∈ placements tensorIndex items ↔
      (items.find? fun item => tensorIndex.get? item.1 = some r).map Prod.snd = some d := by
  have hfound : ∀ item : String × δ,
      Option.any (fun found : Record × δ => decide (found.1 = r))
        ((tensorIndex.get? item.1).map fun record => (record, item.2)) =
      decide (tensorIndex.get? item.1 = some r) := by
    intro item
    cases tensorIndex.get? item.1 <;> simp
  rw [placements, mem_foldl_place, recordsOf, List.find?_filterMap]
  simp only [hfound, List.not_mem_nil, false_or, List.map_nil, not_false_eq_true, true_and]
  cases hfind : items.find? fun item => tensorIndex.get? item.1 = some r with
  | none => simp
  | some item =>
    have hitem := List.find?_some hfind
    rw [decide_eq_true_eq] at hitem
    simp [hitem]

theorem lookupOffset_openDevice (st : OffsetState δ) (device d : δ) (name : String) :
    lookupOffset (st.openDevice device).tensorDeviceOffsets d name =
      lookupOffset st.tensorDeviceOffsets d name := by
  unfold OffsetState.openDevice
  split_ifs with hdev
  · rfl
  · unfold lookupOffset
    rw [OrderedDict.get?_set]
    split_ifs with hd
    · rw [← hd, (OrderedDict.get?_eq_none_iff _).mpr hdev]
      rfl
    · rfl

/-- One turn gives an offset to its own name only. -/
theorem lookupOffset_step {tensorIndex : TensorIndex} {st st' : OffsetState δ}
    {item : String × δ} (hstep : deviceOffsetsStep tensorIndex st item = .ok st') {name : String}
    {d : δ} {o : ℕ} (h : lookupOffset st'.tensorDeviceOffsets d name = some o) :
    item = (name, d) ∨ lookupOffset st.tensorDeviceOffsets d name = some o := by
  have hset : ∀ st₁ : OffsetState δ, ∀ o₁,
      st₁.tensorDeviceOffsets = (st.openDevice item.2).tensorDeviceOffsets →
      lookupOffset (st₁.setOffset item.2 item.1 o₁).tensorDeviceOffsets d name = some o →
      item = (name, d) ∨ lookupOffset st.tensorDeviceOffsets d name = some o := by
    intro st₁ o₁ hopen hlook
    rw [lookupOffset_setOffset, hopen, lookupOffset_openDevice] at hlook
    split_ifs at hlook with hitem
    · exact Or.inl (Prod.ext hitem.2 hitem.1)
    · exact Or.inr hlook
  unfold deviceOffsetsStep at hstep
  dsimp only at hstep
  split at hstep
  · exact absurd hstep (by simp)
  · split at hstep
    · obtain rfl := Except.ok.inj hstep
      exact hset _ _ rfl h
    · obtain rfl := Except.ok.inj hstep
      exact hset _ _ rfl h

/-- Only the names of the device map have offsets, on their own devices. -/
theorem mem_of_lookupOffset {tensorIndex : TensorIndex} {items : List (String × δ)}
    {st st' : OffsetState δ} (hrun : items.foldlM (deviceOffsetsStep tensorIndex) st = .ok st')
    {name : String} {d : δ} {o : ℕ} (h : lookupOffset st'.tensorDeviceOffsets d name = some o) :
    (name, d) ∈ items ∨ lookupOffset st.tensorDeviceOffsets d name = some o := by
  induction items generalizing st with
  | nil =>
    obtain rfl := Except.ok.inj hrun
    exact Or.inr h
  | cons item rest ih =>
    rw [List.foldlM_cons] at hrun
    cases hstep : deviceOffsetsStep tensorIndex st item with
    | error e =>
      rw [hstep] at hrun
      exact absurd hrun (by simp [bind, Except.bind])
    | ok mid =>
      rw [hstep] at hrun
      rcases ih hrun with hrest | hmid
      · exact Or.inl (List.mem_cons_of_mem _ hrest)
      · rcases lookupOffset_step hstep hmid with rfl | hfirst
        · exact Or.inl List.mem_cons_self
        · exact Or.inr hfirst

end Layout

/-! ## Restoring the views -/

section Restore

variable {δ : Type*} [DecidableEq δ] {tensorIndex : OrderedDict String TensorEntry}
  {offsets : OrderedDict δ (OrderedDict String ℕ)}

theorem mem_offsetItems {device : δ} {name : String} {offset : ℕ} :
    (device, name, offset) ∈ offsetItems offsets ↔
      lookupOffset offsets device name = some offset := by
  rw [lookupOffset, Option.bind_eq_some_iff]
  simp only [offsetItems, List.mem_flatMap, List.mem_map, Prod.mk.injEq, Prod.exists]
  constructor
  · rintro ⟨_, names, hnames, _, _, hname, rfl, rfl, rfl⟩
    exact ⟨names, (OrderedDict.mem_entries_iff _).mp hnames,
      (OrderedDict.mem_entries_iff _).mp hname⟩
  · rintro ⟨names, hnames, hname⟩
    exact ⟨device, names, (OrderedDict.mem_entries_iff _).mpr hnames, name, offset,
      (OrderedDict.mem_entries_iff _).mpr hname, rfl, rfl, rfl⟩

/-- The view of a tensor at an offset of a device. -/
def viewAt (t : Tensor) (device : δ) (offset : ℕ) : RestoredTensor δ :=
  ⟨device, offset, t.shape, t.stride, t.dtype⟩

/-- What the state dict of `RestoreTensors` holds after the items `done`: for each name a view at
one of its items. -/
def RestoredFrom (tensors : OrderedDict String Tensor) (done : List (δ × String × ℕ))
    (restored : OrderedDict String (RestoredTensor δ)) : Prop :=
  ∀ item ∈ done, ∃ t, tensors.get? item.2.1 = some t ∧ ∃ item' ∈ done, item'.2.1 = item.2.1 ∧
    restored.get? item.2.1 = some (viewAt t item'.1 item'.2.2)

/-- **`RestoreTensors`**, when all names with offsets are tensors of supported dtypes. -/
theorem restoreTensors_ok {tensors : OrderedDict String Tensor}
    (hentry : ∀ device name offset, lookupOffset offsets device name = some offset →
      ∃ t record, tensors.get? name = some t ∧ t.dtype.Supported ∧
        tensorIndex.get? name = some ⟨record, t.shape, t.stride, t.dtype.str⟩) :
    ∃ restored, restoreTensors tensorIndex offsets = .ok restored ∧
      ∀ device name offset, lookupOffset offsets device name = some offset →
        ∃ t device' offset', tensors.get? name = some t ∧
          lookupOffset offsets device' name = some offset' ∧
          restored.get? name = some (viewAt t device' offset') := by
  have hrun : ∃ restored, restoreTensors tensorIndex offsets = .ok restored ∧
      RestoredFrom tensors (offsetItems offsets) restored := by
    refine Runs.foldlM_inv (RestoredFrom tensors) ?_ (by simp [RestoredFrom])
    rintro done ⟨device, name, offset⟩ rest restored hsplit hinv
    have hlook : lookupOffset offsets device name = some offset :=
      mem_offsetItems.mp (by simp [hsplit])
    obtain ⟨t, record, ht, hdtype, hget⟩ := hentry device name offset hlook
    refine ⟨restored.set name (viewAt t device offset), ?_, ?_⟩
    · simp only [restoreStep, hget, lookup_dtypeMap, if_pos hdtype]
      rfl
    · intro item hitem
      by_cases hname : name = item.2.1
      · subst hname
        exact ⟨t, ht, (device, item.2.1, offset), by simp, rfl, OrderedDict.get?_set_self _ _ _⟩
      · have hold : item ∈ done := by
          rcases List.mem_append.mp hitem with hold | hlast
          · exact hold
          · rw [List.mem_singleton.mp hlast] at hname
            exact absurd rfl hname
        obtain ⟨t', ht', item', hitem', hsame, hview⟩ := hinv item hold
        refine ⟨t', ht', item', List.mem_append_left _ hitem', hsame, ?_⟩
        rw [OrderedDict.get?_set_of_ne _ _ hname]
        exact hview
  obtain ⟨restored, hok, hviews⟩ := hrun
  refine ⟨restored, hok, fun device name offset hlook => ?_⟩
  obtain ⟨t, ht, ⟨device', name', offset'⟩, hitem', rfl, hview⟩ :=
    hviews (device, name, offset) (mem_offsetItems.mpr hlook)
  exact ⟨t, device', offset', ht, mem_offsetItems.mp hitem', hview⟩

/-- A dtype outside the table makes it raise. -/
theorem supported_of_restoreTensors {restored : OrderedDict String (RestoredTensor δ)}
    (hok : restoreTensors tensorIndex offsets = .ok restored) {device : δ} {name : String}
    {offset : ℕ} (hlook : lookupOffset offsets device name = some offset) {entry : TensorEntry}
    (hentry : tensorIndex.get? name = some entry) {dtype : DType}
    (hdtype : entry.dtype = dtype.str) : dtype.Supported := by
  by_contra hnot
  have hraise : ∀ stateDict : OrderedDict String (RestoredTensor δ),
      ∃ e, restoreStep tensorIndex stateDict (device, name, offset) = .error e := by
    intro stateDict
    refine ⟨.unknownDtype entry.dtype, ?_⟩
    simp only [restoreStep, hentry, hdtype, lookup_dtypeMap, if_neg hnot]
  obtain ⟨e, he⟩ := Runs.foldlM_error (mem_offsetItems.mpr hlook) hraise .empty
  rw [restoreTensors, he] at hok
  exact absurd hok (by simp)

end Restore

/-! ## Loading -/

section Load

variable {δ : Type*} [DecidableEq δ] {cfg : StoreConfig} {sd : StateDict} {deviceMap : DeviceMap δ}
  {memory : ℕ → ℕ → Byte} {checkpoint : Checkpoint}

/-- A host chunk holds its part of the image. -/
theorem hostBuffer_of_image (stale : ℕ → ℕ → Byte) {loaded : List (ℕ × List Byte)}
    {image : List Byte} (hloaded : ∀ chunk < cfg.numChunks image.length,
      loaded.lookup chunk = some (imageChunk cfg image chunk))
    {a : ℕ} {b : Byte} (h : image[a]? = some b) :
    hostBuffer stale loaded (a / cfg.chunkSize) (a % cfg.chunkSize) = b := by
  have hlt : a < image.length := (List.getElem?_eq_some_iff.mp h).1
  have hdiv := Nat.div_add_mod' a cfg.chunkSize
  have hmod := Nat.mod_lt a cfg.chunkSize_pos
  have hchunk : a / cfg.chunkSize < cfg.numChunks image.length :=
    (cfg.lt_numChunks_iff _ _).mpr (by omega)
  rw [hostBuffer, hloaded _ hchunk, Option.bind_some, imageChunk, List.getElem?_take,
    if_pos (by omega), List.getElem?_drop, hdiv, h, Option.getD_some]

variable (cfg sd deviceMap)

/-- What makes `load_dict` return. -/
structure Loadable : Prop where
  defaultAlone : DefaultAlone deviceMap
  mapped : ∃ name d, (sd.expanded deviceMap).get? name = some d
  nonempty : ∃ address ∈ sd.addresses, 0 < sd.writtenSize address
  readable : HostReadable cfg (sd.partitions kPartitionMaxSize)
  countable : cfg.numChunks sd.imageSize < 2 ^ 31
  inside : ∀ name d t, (sd.expanded deviceMap).get? name = some d →
    sd.tensors.get? name = some t → 0 < t.storageSize →
    sd.imageOffset t.dataPtr + t.storageSize ≤ cfg.numChunks sd.imageSize * cfg.chunkSize
  dtype : ∀ name d t, (sd.expanded deviceMap).get? name = some d →
    sd.tensors.get? name = some t → t.dtype.Supported

variable {cfg sd deviceMap}

omit [DecidableEq δ] in
theorem StateDict.namesKnown (sd : StateDict) (deviceMap : DeviceMap δ) :
    NamesKnown (sd.expanded deviceMap) sd.records := by
  intro name hname
  obtain ⟨d, hd⟩ := (OrderedDict.mem_keys_iff _).mp hname
  obtain ⟨t, ht⟩ := StateDict.exists_tensor hd
  exact StateDict.mem_keys_records.mpr ((OrderedDict.mem_keys_iff _).mpr ⟨t, ht⟩)

omit [DecidableEq δ] in
theorem expandTensorName_eq : expandTensorName deviceMap sd.tensorIndex.keys =
    if DefaultAlone deviceMap then .ok (sd.expanded deviceMap) else .error .invalidDeviceMap := by
  rw [expandTensorName, StateDict.tensorIndex, OrderedDict.keys_mapValues]
  rfl

/-- The state of the offsets loop for the records of a state dict. -/
abbrev StateDict.LaidOut (sd : StateDict) (deviceMap : DeviceMap δ) (st : OffsetState δ) : Prop :=
  Laid sd.records (placements sd.records (sd.expanded deviceMap).entries)
    (sd.expanded deviceMap).entries st

/-- `load_dict` after the layout has been computed. -/
theorem loadDict_eq (h : Written kPartitionMaxSize sd memory checkpoint)
    (hdefault : DefaultAlone deviceMap) {st : OffsetState δ}
    (hst : (sd.expanded deviceMap).entries.foldlM (deviceOffsetsStep sd.records)
      ⟨.empty, .empty, .empty, .empty⟩ = .ok st) (stale : ℕ → ℕ → Byte) (initial : δ → ℕ → Byte) :
    loadDict cfg stale initial checkpoint deviceMap =
      if 2 ^ 31 ≤ cfg.numChunks sd.imageSize then .error .tooManyChunks
      else
        match toHost cfg checkpoint.files with
        | none => .error .hostLoadFailed
        | some loaded =>
          if st.tensorCopyChunks.keys = [] then .error .noCopyChunks
          else if ¬ DispatchInside cfg (cfg.numChunks sd.imageSize) st.tensorCopyChunks then
            .error .chunkOutOfRange
          else (restoreTensors sd.tensorIndex st.tensorDeviceOffsets).map fun restored =>
            (restored, fun device => toGpu cfg (hostBuffer stale loaded)
              (cfg.numChunks sd.imageSize) (chunksOf st.tensorCopyChunks device)
              (initial device)) := by
  obtain ⟨mst, hmst, -⟩ := exists_memoryLaid (sd.namesKnown deviceMap)
  have hoffsets : calculateTensorDeviceOffsets (sd.expanded deviceMap) sd.records =
      .ok (st.tensorDeviceOffsets, st.tensorCopyChunks) := by
    rw [calculateTensorDeviceOffsets, hst]
    rfl
  have hmemory : calculateDeviceMemory (sd.expanded deviceMap) sd.records =
      .ok mst.deviceMemory := by
    rw [calculateDeviceMemory, hmst]
    rfl
  have hrecords : (sd.tensorIndex.mapValues fun _ entry => entry.record) = sd.records := rfl
  unfold loadDict
  simp only [h.index, h.length, hrecords, expandTensorName_eq, if_pos hdefault, hoffsets, hmemory,
    Except.mapError, bind, Except.bind]
  refine ite_congr rfl (fun _ => rfl) fun _ => ?_
  cases toHost cfg checkpoint.files with
  | none => rfl
  | some loaded =>
    dsimp only
    refine ite_congr rfl (fun _ => rfl) fun _ => ite_congr rfl (fun _ => rfl) fun _ => ?_
    cases restoreTensors sd.tensorIndex st.tensorDeviceOffsets <;> rfl

section LaidOut

variable {st : OffsetState δ}

/-- The chunks of a device have keys as soon as a name is mapped. -/
theorem chunkKeys_ne_nil (hlaid : sd.LaidOut deviceMap st) {name : String} {d : δ}
    (hname : (sd.expanded deviceMap).get? name = some d) : st.tensorCopyChunks.keys ≠ [] := by
  obtain ⟨r, o, -, hlook, -⟩ := hlaid.named name d ((OrderedDict.mem_entries_iff _).mpr hname)
  obtain ⟨names, hnames, -⟩ := Option.bind_eq_some_iff.mp hlook
  rw [hlaid.chunkKeys]
  exact List.ne_nil_of_mem ((OrderedDict.mem_keys_iff _).mpr ⟨names, hnames⟩)

omit [DecidableEq δ] in
/-- A placed record is that of a mapped tensor. -/
theorem StateDict.exists_of_mem_placements {r : Record} {d : δ}
    (h : (r, d) ∈ placements sd.records (sd.expanded deviceMap).entries) : ∃ name t,
    (sd.expanded deviceMap).get? name = some d ∧ sd.tensors.get? name = some t ∧
      r = sd.recordOf t := by
  obtain ⟨name, hmem, hr⟩ := exists_name_of_mem_placements h
  have hname := (OrderedDict.mem_entries_iff _).mp hmem
  obtain ⟨t, ht⟩ := StateDict.exists_tensor hname
  rw [StateDict.get?_records ht] at hr
  exact ⟨name, t, hname, ht, (Option.some.inj hr).symm⟩

/-- The offset of a mapped tensor, and the device on which its record is packed there. -/
theorem StateDict.LaidOut.offset (hlaid : sd.LaidOut deviceMap st) {name : String} {d : δ}
    {t : Tensor} (hname : (sd.expanded deviceMap).get? name = some d)
    (ht : sd.tensors.get? name = some t) : ∃ o home,
    lookupOffset st.tensorDeviceOffsets d name = some o ∧
      (sd.recordOf t, o) ∈ packed (placements sd.records (sd.expanded deviceMap).entries) home := by
  obtain ⟨r, o, hr, hlook, hrecord⟩ :=
    hlaid.named name d ((OrderedDict.mem_entries_iff _).mpr hname)
  rw [StateDict.get?_records ht] at hr
  obtain rfl := Option.some.inj hr
  obtain ⟨home, hpacked⟩ := (hlaid.record _ o).mp hrecord
  exact ⟨o, home, hlook, hpacked⟩

/-- When the dispatch stays in its table. -/
theorem dispatchInside_iff (hlaid : sd.LaidOut deviceMap st) {numChunks : ℕ} :
    DispatchInside cfg numChunks st.tensorCopyChunks ↔
      ∀ name d t, (sd.expanded deviceMap).get? name = some d → sd.tensors.get? name = some t →
        0 < t.storageSize →
        sd.imageOffset t.dataPtr + t.storageSize ≤ numChunks * cfg.chunkSize := by
  constructor
  · intro h name d t hname ht hsize
    obtain ⟨o, home, -, hpacked⟩ := hlaid.offset hname ht
    have hchunk : chunkAt (sd.recordOf t, o) ∈ chunksOf st.tensorCopyChunks home := by
      rw [hlaid.chunks home]
      exact List.mem_map_of_mem hpacked
    rw [chunksOf] at hchunk
    cases hentry : st.tensorCopyChunks.get? home with
    | none =>
      rw [hentry] at hchunk
      exact absurd hchunk List.not_mem_nil
    | some chunks =>
      rw [hentry] at hchunk
      have hlast := batchesOf_lt_iff.mp
        (h (home, chunks) ((OrderedDict.mem_entries_iff _).mpr hentry) _ hchunk)
        (t.storageSize - 1) (Nat.sub_lt hsize Nat.one_pos)
      rw [Nat.div_lt_iff_lt_mul cfg.chunkSize_pos] at hlast
      change sd.imageOffset t.dataPtr + (t.storageSize - 1) < _ at hlast
      omega
  · rintro h ⟨d, chunks⟩ hentry chunk hchunk
    have hchunks : chunksOf st.tensorCopyChunks d = chunks := by
      rw [chunksOf, (OrderedDict.mem_entries_iff _).mp hentry, Option.getD_some]
    rw [← hchunks, hlaid.chunks d] at hchunk
    obtain ⟨⟨r, o⟩, hpacked, rfl⟩ := List.mem_map.mp hchunk
    obtain ⟨name, t, hname, ht, rfl⟩ :=
      StateDict.exists_of_mem_placements (mem_onDevice.mp (mem_of_mem_pack Record.size hpacked))
    refine batchesOf_lt_iff.mpr fun i hi => ?_
    change i < t.storageSize at hi
    have hend := h name d t hname ht (Nat.zero_lt_of_lt hi)
    rw [Nat.div_lt_iff_lt_mul cfg.chunkSize_pos]
    show sd.imageOffset t.dataPtr + i < _
    omega

end LaidOut

/-- **The load goes through**: every mapped tensor has a view on its device, and the devices hold
what the copy chunks bring them of the image. -/
theorem loadDict_of_loadable (h : Written kPartitionMaxSize sd memory checkpoint)
    (hload : Loadable cfg sd deviceMap) (stale : ℕ → ℕ → Byte) (initial : δ → ℕ → Byte) :
    ∃ st host restored, sd.LaidOut deviceMap st ∧
      (∀ a b, checkpoint.files.flatten[a]? = some b → host a = b) ∧
      loadDict cfg stale initial checkpoint deviceMap = .ok (restored, fun device =>
        executeCopyChunks host (chunksOf st.tensorCopyChunks device) (initial device)) ∧
      ∀ name d, (sd.expanded deviceMap).get? name = some d → ∃ t o,
        sd.tensors.get? name = some t ∧ lookupOffset st.tensorDeviceOffsets d name = some o ∧
        restored.get? name = some (viewAt t d o) := by
  obtain ⟨st, hst, hlaid⟩ := exists_laid (sd.namesKnown deviceMap)
  have hnamed : ∀ d name o, lookupOffset st.tensorDeviceOffsets d name = some o →
      (sd.expanded deviceMap).get? name = some d := by
    intro d name o hlook
    rcases mem_of_lookupOffset hst hlook with hmem | hempty
    · exact (OrderedDict.mem_entries_iff _).mp hmem
    · exact absurd hempty (by simp [lookupOffset])
  have hreadable : HostReadable cfg (checkpoint.files.map List.length) :=
    h.sizes ▸ hload.readable
  have hsize : checkpoint.files.flatten.length ≠ 0 :=
    h.length ▸ StateDict.imageSize_ne_zero_iff.mpr hload.nonempty
  obtain ⟨loaded, hhost, hloaded⟩ := toHost_of_readable hsize hreadable
  have hentries : ∀ d name o, lookupOffset st.tensorDeviceOffsets d name = some o →
      ∃ t record, sd.tensors.get? name = some t ∧ t.dtype.Supported ∧
        sd.tensorIndex.get? name = some ⟨record, t.shape, t.stride, t.dtype.str⟩ := by
    intro d name o hlook
    have hname := hnamed d name o hlook
    obtain ⟨t, ht⟩ := StateDict.exists_tensor hname
    exact ⟨t, _, ht, hload.dtype name d t hname ht, StateDict.get?_tensorIndex ht⟩
  obtain ⟨restored, hrestored, hviews⟩ := restoreTensors_ok hentries
  refine ⟨st, fun a => hostBuffer stale loaded (a / cfg.chunkSize) (a % cfg.chunkSize), restored,
    hlaid, fun a b ha => hostBuffer_of_image stale hloaded ha, ?_, ?_⟩
  · obtain ⟨name, d, hname⟩ := hload.mapped
    have hinside : DispatchInside cfg (cfg.numChunks sd.imageSize) st.tensorCopyChunks :=
      (dispatchInside_iff hlaid).mpr hload.inside
    rw [loadDict_eq h hload.defaultAlone hst, if_neg (Nat.not_le.mpr hload.countable), hhost]
    dsimp only
    rw [if_neg (chunkKeys_ne_nil hlaid hname), if_neg (not_not.mpr hinside), hrestored]
    refine congrArg Except.ok (Prod.ext rfl (funext fun device => ?_))
    dsimp only
    rw [hlaid.chunks device]
    refine toGpu_eq ?_ ?_ (initial device)
    · exact List.pairwise_map.mpr (pairwise_pack Record.size 0 _)
    · intro chunk hchunk i hi
      obtain ⟨⟨r, o⟩, hpacked, rfl⟩ := List.mem_map.mp hchunk
      obtain ⟨name, t, hname, ht, rfl⟩ :=
        StateDict.exists_of_mem_placements (mem_onDevice.mp (mem_of_mem_pack Record.size hpacked))
      change i < t.storageSize at hi
      have hend := hload.inside name device t hname ht (Nat.zero_lt_of_lt hi)
      rw [Nat.div_lt_iff_lt_mul cfg.chunkSize_pos]
      show sd.imageOffset t.dataPtr + i < _
      omega
  · intro name d hname
    obtain ⟨r, o, -, hlook, -⟩ := hlaid.named name d ((OrderedDict.mem_entries_iff _).mpr hname)
    obtain ⟨t, d', o', ht, hlook', hview⟩ := hviews d name o hlook
    have hd : d' = d := by
      have hname' := hnamed d' name o' hlook'
      rw [hname] at hname'
      exact (Option.some.inj hname').symm
    subst hd
    rw [hlook] at hlook'
    obtain rfl := Option.some.inj hlook'
    exact ⟨t, o, ht, hlook, hview⟩

/-- Otherwise it does not return. -/
theorem loadable_of_loadDict (h : Written kPartitionMaxSize sd memory checkpoint)
    {stale : ℕ → ℕ → Byte} {initial : δ → ℕ → Byte} {result}
    (hok : loadDict cfg stale initial checkpoint deviceMap = .ok result) :
    Loadable cfg sd deviceMap := by
  have hdefault : DefaultAlone deviceMap := by
    by_contra hnot
    rw [loadDict, h.index, expandTensorName_eq, if_neg hnot] at hok
    exact absurd hok (by simp [bind, Except.bind])
  obtain ⟨st, hst, hlaid⟩ := exists_laid (sd.namesKnown deviceMap)
  rw [loadDict_eq h hdefault hst] at hok
  by_cases hcount : 2 ^ 31 ≤ cfg.numChunks sd.imageSize
  · rw [if_pos hcount] at hok
    exact absurd hok (by simp)
  rw [if_neg hcount] at hok
  cases hhost : toHost cfg checkpoint.files with
  | none =>
    rw [hhost] at hok
    exact absurd hok (by simp)
  | some loaded =>
    rw [hhost] at hok
    dsimp only at hok
    split_ifs at hok with hkeys hinside
    obtain ⟨restored, hrestored, -⟩ := Runs.of_map_ok hok
    refine
      { defaultAlone := hdefault
        mapped := ?_
        nonempty := ?_
        readable := ?_
        countable := Nat.lt_of_not_le hcount
        inside := (dispatchInside_iff hlaid).mp hinside
        dtype := ?_ }
    · by_contra hnone
      push Not at hnone
      have hempty : (sd.expanded deviceMap).entries = [] := by
        refine List.eq_nil_iff_forall_not_mem.mpr fun entry hentry => ?_
        exact hnone entry.1 entry.2 ((OrderedDict.mem_entries_iff _).mp hentry)
      rw [hempty] at hst
      obtain rfl := Except.ok.inj hst
      exact hkeys rfl
    · refine StateDict.imageSize_ne_zero_iff.mp fun hzero => ?_
      rw [toHost, if_pos (h.length.trans hzero)] at hhost
      exact absurd hhost (by simp)
    · by_contra hnot
      rw [toHost_of_not_readable (h.sizes ▸ hnot)] at hhost
      exact absurd hhost (by simp)
    · intro name d t hname ht
      obtain ⟨o, -, hlook, -⟩ := StateDict.LaidOut.offset hlaid hname ht
      exact supported_of_restoreTensors hrestored hlook (StateDict.get?_tensorIndex ht) rfl

/-! ## The elements -/

/-- The device of the first mapped tensor that has this record. -/
def StateDict.firstDevice (sd : StateDict) (deviceMap : DeviceMap δ) (r : Record) : Option δ :=
  ((sd.expanded deviceMap).entries.find? fun entry =>
    sd.records.get? entry.1 = some r).map Prod.snd

/-- The first element of a tensor that has elements. -/
theorem isIndex_zero {shape : List ℕ} (h : 0 ∉ shape) : IsIndex shape (shape.map fun _ => 0) := by
  rw [IsIndex, List.forall₂_map_left_iff, List.forall₂_same]
  intro size hsize
  exact Nat.pos_of_ne_zero fun hzero => h (hzero ▸ hsize)

theorem elementOffset_zero (stride shape : List ℕ) :
    elementOffset stride (shape.map fun _ => 0) = 0 := by
  unfold elementOffset
  induction shape generalizing stride with
  | nil => rfl
  | cons size shape ih =>
    cases stride with
    | nil => rfl
    | cons s stride =>
      rw [List.map_cons, List.zipWith_cons_cons, List.sum_cons, ih, Nat.zero_mul]

variable {st : OffsetState δ} {host : ℕ → Byte}

/-- What the copy chunks leave at the bytes of a tensor, on the first device of its record. -/
theorem Written.device_byte (h : Written kPartitionMaxSize sd memory checkpoint)
    (hlaid : sd.LaidOut deviceMap st)
    (hhost : ∀ a b, checkpoint.files.flatten[a]? = some b → host a = b) {name : String} {d : δ}
    {t : Tensor} {o i : ℕ} (hname : (sd.expanded deviceMap).get? name = some d)
    (ht : sd.tensors.get? name = some t)
    (hlook : lookupOffset st.tensorDeviceOffsets d name = some o)
    (hfirst : sd.firstDevice deviceMap (sd.recordOf t) = some d) (hi : i < t.storageSize)
    (hwritten : i < sd.writtenSize t.dataPtr) (before : ℕ → Byte) :
    executeCopyChunks host (chunksOf st.tensorCopyChunks d) before (o + i) =
      memory t.dataPtr i := by
  obtain ⟨o', home, hlook', hpacked⟩ := hlaid.offset hname ht
  rw [hlook] at hlook'
  obtain rfl := Option.some.inj hlook'
  have hplaced := mem_onDevice.mp (mem_of_mem_pack Record.size hpacked)
  rw [mem_placements_iff, ← StateDict.firstDevice, hfirst] at hplaced
  obtain rfl := Option.some.inj hplaced
  rw [hlaid.chunks d, executeCopyChunks_packed host before hpacked hi]
  exact hhost _ _ (h.bytes name t ht i hwritten)

/-- A byte of a device is what it was, or a byte of a record placed there. -/
theorem executeCopyChunks_packed_cases (host before : ℕ → Byte) (placed : List (Record × δ))
    (d : δ) (a : ℕ) :
    executeCopyChunks host ((packed placed d).map chunkAt) before a = before a ∨
      ∃ r i, (r, d) ∈ placed ∧ i < r.size ∧
        executeCopyChunks host ((packed placed d).map chunkAt) before a = host (r.offset + i) := by
  by_cases hin : a < 0 + total Record.size (onDevice placed d)
  · right
    obtain ⟨r, o, hpacked, hlo, hhi⟩ := exists_mem_pack Record.size (Nat.zero_le a) hin
    obtain ⟨i, rfl⟩ := Nat.exists_eq_add_of_le hlo
    have hi : i < r.size := by omega
    exact ⟨r, i, mem_onDevice.mp (mem_of_mem_pack Record.size hpacked), hi,
      executeCopyChunks_packed host before hpacked hi⟩
  · left
    refine copyAll_outside _ _ _ _ _ fun chunk hchunk => ?_
    obtain ⟨⟨r, o⟩, hpacked, rfl⟩ := List.mem_map.mp hchunk
    have hbounds := (bounds_of_mem_pack Record.size hpacked).2
    right
    show o + r.size ≤ a
    omega

/-- The tensors of one address agree on the size of the storage. -/
def StateDict.OneSize (sd : StateDict) : Prop :=
  ∀ name name' t t', sd.tensors.get? name = some t → sd.tensors.get? name' = some t' →
    t.dataPtr = t'.dataPtr → t.storageSize = t'.storageSize

theorem StateDict.OneSize.writtenSize_eq (hone : sd.OneSize) {name : String} {t : Tensor}
    (ht : sd.tensors.get? name = some t) : sd.writtenSize t.dataPtr = t.storageSize := by
  rw [StateDict.writtenSize, firstSize]
  cases hfind : sd.tensors.keys.find? fun name => sd.addressOf name = t.dataPtr with
  | none =>
    have hnone := List.find?_eq_none.mp hfind name ((OrderedDict.mem_keys_iff _).mpr ⟨t, ht⟩)
    exact absurd (decide_eq_true (StateDict.addressOf_eq ht)) hnone
  | some first =>
    obtain ⟨t', ht'⟩ := (OrderedDict.mem_keys_iff _).mp (List.mem_of_find?_eq_some hfind)
    have haddress := List.find?_some hfind
    rw [decide_eq_true_eq, StateDict.addressOf_eq ht'] at haddress
    rw [Option.map_some, Option.getD_some, StateDict.storageSizeOf_eq ht']
    exact hone first name t' t ht' ht haddress

/-- On any other device there is nothing of its storage. -/
theorem Written.device_byte_away (h : Written kPartitionMaxSize sd memory checkpoint)
    (hone : sd.OneSize) (hlaid : sd.LaidOut deviceMap st)
    (hhost : ∀ a b, checkpoint.files.flatten[a]? = some b → host a = b) {name : String} {t : Tensor}
    (ht : sd.tensors.get? name = some t) {d : δ}
    (hfirst : sd.firstDevice deviceMap (sd.recordOf t) ≠ some d) {b : Byte} {before : ℕ → Byte}
    (hmemory : ∀ address', address' ≠ t.dataPtr → ∀ i, memory address' i = b)
    (hbefore : ∀ a, before a = b) (a : ℕ) :
    executeCopyChunks host (chunksOf st.tensorCopyChunks d) before a = b := by
  rw [hlaid.chunks d]
  rcases executeCopyChunks_packed_cases host before
    (placements sd.records (sd.expanded deviceMap).entries) d a with heq | hcopied
  · rw [heq, hbefore]
  · obtain ⟨r, i, hplaced, hi, heq⟩ := hcopied
    obtain ⟨name', t', -, ht', rfl⟩ := StateDict.exists_of_mem_placements hplaced
    have hi : i < sd.writtenSize t'.dataPtr := (hone.writtenSize_eq ht').symm ▸ hi
    refine (heq.trans (hhost _ _ (h.bytes name' t' ht' i hi))).trans ?_
    -- with one size to an address, a tensor of the same address has the same record
    refine hmemory t'.dataPtr (fun hsame => hfirst ?_) i
    have hrecord : sd.recordOf t' = sd.recordOf t := by
      rw [StateDict.recordOf, StateDict.recordOf, hsame, hone name' name t' t ht' ht hsame]
    rw [mem_placements_iff, hrecord] at hplaced
    exact hplaced

end Load

/-! ## The round trip -/

section RoundTrip

variable {δ : Type*} [DecidableEq δ] (cfg : StoreConfig) (sd : StateDict) (deviceMap : DeviceMap δ)

/-- Whatever the storages hold, and whatever the buffers and the devices held before, the load of
the saved state dict returns every mapped tensor on its device, equal element by element. -/
def RoundTrips : Prop :=
  ∀ (garbage memory stale : ℕ → ℕ → Byte) (initial : δ → ℕ → Byte), ∃ restored devices,
    loadDict cfg stale initial (saveDict kPartitionMaxSize [] garbage memory sd) deviceMap =
      .ok (restored, devices) ∧
    ∀ name d, (sd.expanded deviceMap).get? name = some d → ∃ t r,
      sd.tensors.get? name = some t ∧ restored.get? name = some r ∧ r.device = d ∧
      r.shape = t.shape ∧ r.dtype = t.dtype ∧
      ∀ index, IsIndex t.shape index → r.element devices index = t.element memory index

variable {cfg sd deviceMap}

theorem RoundTrips.loadable (h : RoundTrips cfg sd deviceMap) : Loadable cfg sd deviceMap := by
  obtain ⟨restored, devices, hok, -⟩ := h (fun _ _ => 0) (fun _ _ => 0) (fun _ _ => 0)
    (fun _ _ => 0)
  exact loadable_of_loadDict (saveDict_written _ _ _ sd) hok

/-- An element beyond what is written: the checkpoint is the same whatever it is. -/
theorem RoundTrips.written (h : RoundTrips cfg sd deviceMap) {name : String} {d : δ} {t : Tensor}
    (hname : (sd.expanded deviceMap).get? name = some d) (ht : sd.tensors.get? name = some t)
    {index : List ℕ} (hindex : IsIndex t.shape index) :
    (t.storageOffset + elementOffset t.stride index + 1) * t.dtype.itemsize ≤
      sd.writtenSize t.dataPtr := by
  by_contra hbeyond
  have hitem := t.dtype.itemsize_pos
  -- the last byte of the element
  let last := (t.storageOffset + elementOffset t.stride index) * t.dtype.itemsize +
    (t.dtype.itemsize - 1)
  let ones : ℕ → ℕ → Byte := fun address i => if address = t.dataPtr ∧ i = last then 1 else 0
  have hlast : sd.writtenSize t.dataPtr ≤ last := by
    rw [Nat.add_mul] at hbeyond
    dsimp only [last]
    omega
  have hsame : saveDict kPartitionMaxSize [] (fun _ _ => 0) (fun _ _ => 0) sd =
      saveDict kPartitionMaxSize [] (fun _ _ => 0) ones sd := by
    refine saveDict_congr _ _ _ sd fun address i hi => (if_neg ?_).symm
    rintro ⟨rfl, rfl⟩
    exact absurd hi (Nat.not_lt.mpr hlast)
  obtain ⟨restored, devices, hok, helements⟩ := h (fun _ _ => 0) (fun _ _ => 0) (fun _ _ => 0)
    (fun _ _ => 0)
  obtain ⟨restored', devices', hok', helements'⟩ := h (fun _ _ => 0) ones (fun _ _ => 0)
    (fun _ _ => 0)
  rw [← hsame, hok] at hok'
  obtain ⟨rfl, rfl⟩ := Prod.mk.inj (Except.ok.inj hok')
  obtain ⟨t', r, ht', hr, -, -, -, helement⟩ := helements name d hname
  obtain ⟨t'', r', ht'', hr', -, -, -, helement'⟩ := helements' name d hname
  rw [ht] at ht' ht''
  rw [hr] at hr'
  obtain rfl := Option.some.inj ht'
  obtain rfl := Option.some.inj ht''
  obtain rfl := Option.some.inj hr'
  have hequal := (helement index hindex).symm.trans (helement' index hindex)
  have hbyte := congrArg (fun bytes : List Byte => bytes[t.dtype.itemsize - 1]?) hequal
  unfold Tensor.element at hbyte
  dsimp only at hbyte
  rw [getElem?_slice _ (by omega), getElem?_slice _ (by omega)] at hbyte
  exact absurd (Option.some.inj hbyte) (by simp [ones, last])

/-- The first byte of a tensor, on the device and in its storage. -/
theorem RoundTrips.first_byte (h : RoundTrips cfg sd deviceMap) (memory : ℕ → ℕ → Byte)
    {name : String} {d : δ} {t : Tensor} (hname : (sd.expanded deviceMap).get? name = some d)
    (ht : sd.tensors.get? name = some t) (hshape : 0 ∉ t.shape) :
    ∃ checkpoint st host o, Written kPartitionMaxSize sd memory checkpoint ∧
      sd.LaidOut deviceMap st ∧
      (∀ a b, checkpoint.files.flatten[a]? = some b → host a = b) ∧
      lookupOffset st.tensorDeviceOffsets d name = some o ∧
      executeCopyChunks host (chunksOf st.tensorCopyChunks d) (fun _ => 0) o =
        memory t.dataPtr (t.storageOffset * t.dtype.itemsize) := by
  have hsaved := saveDict_written kPartitionMaxSize (fun _ _ => 0) memory sd
  obtain ⟨st, host, restored, hlaid, hhost, hok, hviews⟩ :=
    loadDict_of_loadable hsaved h.loadable (fun _ _ => 0) (fun _ _ => 0)
  obtain ⟨restored', devices, hok', helements⟩ := h (fun _ _ => 0) memory (fun _ _ => 0)
    (fun _ _ => 0)
  rw [hok] at hok'
  obtain ⟨rfl, rfl⟩ := Prod.mk.inj (Except.ok.inj hok')
  obtain ⟨t', r, ht', hr, -, -, -, helement⟩ := helements name d hname
  obtain ⟨t'', o, ht'', hlook, hview⟩ := hviews name d hname
  rw [ht] at ht' ht''
  obtain rfl := Option.some.inj ht'
  obtain rfl := Option.some.inj ht''
  rw [hview] at hr
  obtain rfl := Option.some.inj hr
  refine ⟨_, st, host, o, hsaved, hlaid, hhost, hlook, ?_⟩
  -- the two elements, read at their first byte
  have hfirst := helement _ (isIndex_zero hshape)
  have hbyte := congrArg (fun bytes : List Byte => bytes[0]?) hfirst
  unfold RestoredTensor.element Tensor.element at hbyte
  dsimp only [viewAt] at hbyte
  rw [getElem?_slice _ t.dtype.itemsize_pos, getElem?_slice _ t.dtype.itemsize_pos,
    elementOffset_zero] at hbyte
  simpa using hbyte

section Viewed

variable {name : String} {d : δ} {t : Tensor}

/-- Where its record is placed, a view starts with the first byte of the storage. -/
theorem RoundTrips.storageOffset (h : RoundTrips cfg sd deviceMap)
    (hname : (sd.expanded deviceMap).get? name = some d) (ht : sd.tensors.get? name = some t)
    (hshape : 0 ∉ t.shape) (hfirst : sd.firstDevice deviceMap (sd.recordOf t) = some d) :
    t.storageOffset = 0 := by
  have hitem := t.dtype.itemsize_pos
  have hpos : 0 < (t.storageOffset +
      elementOffset t.stride (t.shape.map fun _ => 0) + 1) * t.dtype.itemsize :=
    Nat.mul_pos (Nat.succ_pos _) hitem
  have hsize := lt_of_lt_of_le hpos (sd.inStorage name t ht _ (isIndex_zero hshape))
  have hwritten := lt_of_lt_of_le hpos (h.written hname ht (isIndex_zero hshape))
  -- only the first byte of a storage is one, and it is the first byte of the view
  by_contra hoffset
  obtain ⟨checkpoint, st, host, o, hsaved, hlaid, hhost, hlook, hbyte⟩ :=
    h.first_byte (fun _ i => if i = 0 then 1 else 0) hname ht hshape
  have hzero := hsaved.device_byte hlaid hhost hname ht hlook hfirst hsize hwritten (fun _ => 0)
  rw [Nat.add_zero, if_pos rfl] at hzero
  rw [hzero, if_neg (Nat.mul_pos (by omega) hitem).ne'] at hbyte
  exact absurd hbyte (by decide)

/-- With one size to an address, the record of a tensor is placed on its device. -/
theorem RoundTrips.firstDevice (h : RoundTrips cfg sd deviceMap) (hone : sd.OneSize)
    (hname : (sd.expanded deviceMap).get? name = some d) (ht : sd.tensors.get? name = some t)
    (hshape : 0 ∉ t.shape) : sd.firstDevice deviceMap (sd.recordOf t) = some d := by
  -- only this storage holds ones, and the other devices do not get them
  by_contra haway
  obtain ⟨checkpoint, st, host, o, hsaved, hlaid, hhost, hlook, hbyte⟩ :=
    h.first_byte (fun address _ => if address = t.dataPtr then 1 else 0) hname ht hshape
  rw [hsaved.device_byte_away hone hlaid hhost ht haway (b := 0)
    (fun address hne i => if_neg hne) (fun _ => rfl) o, if_pos rfl] at hbyte
  exact absurd hbyte (by decide)

end Viewed

variable (cfg sd deviceMap)

end RoundTrip

end Store
end SpotServe
