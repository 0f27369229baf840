import SpotServe.Library.OrderedDict
import SpotServe.Store.AlignedBuffer
import Mathlib.Data.List.Induction

/-!
# Writing the tensors of a checkpoint

`SaveTensors` (`csrc/checkpoint/checkpoint.cpp`) hands the storages of a state dict to a
`TensorWriter`, which cuts their bytes into partition files; each file is written through an
`AlignedBuffer`.

* `TensorWriter.writeRecord_spec`: a record, padded to a multiple of eight, is appended to the
  partition that is open, and the sizes of the partitions follow `addRecord`.
* `saveTensors_saved`: the image holds every storage once, with the size that the first tensor gives
  it, the storages packed in the order in which the tensors name them.
* `saveTensors_congr`: nothing else of the memory gets into the files.

The functions take the largest size of a partition and the partition files that are in the directory
already; what is said of them here is about an empty directory.
-/

namespace SpotServe
namespace Store

open Py Packing

/-! ## `TensorWriter` -/

/-- A `TensorWriter`: the partition files that are finished, and the one being written. -/
structure TensorWriter where
  offset : ℕ := 0
  partitionSize : ℕ := 0
  closed : List (List Byte) := []
  buffer : Option AlignedBuffer := none

namespace TensorWriter

/-- The partition files, once the writer is gone. -/
def files (w : TensorWriter) : List (List Byte) :=
  w.closed ++ (w.buffer.map AlignedBuffer.close).toList

/-- The buffer to write a record of that size to: a new partition is begun when there is none, or
when the record would make the current one too large.  `existing` are the partition files that the
directory held before. -/
def openPartition (maxSize : ℕ) (existing : List (List Byte)) (w : TensorWriter)
    (garbage : ℕ → ℕ → Byte) (size : ℕ) : AlignedBuffer × TensorWriter :=
  let fresh := AlignedBuffer.openFile (existing.getD w.files.length []) (garbage w.files.length)
  match w.buffer with
  | none => (fresh, { w with partitionSize := 0 })
  | some b =>
    if maxSize < w.partitionSize + size then
      (fresh, { w with partitionSize := 0, closed := w.closed ++ [b.close] })
    else (b, w)

/-- `TensorWriter::writeRecord`, with what it prints to `std::cerr`. -/
def writeRecord (s : BufferSizes) (maxSize : ℕ) (existing : List (List Byte)) (w : TensorWriter)
    (garbage : ℕ → ℕ → Byte) (data : ℕ → Byte) (size : ℕ) : ℕ × TensorWriter × List String :=
  let (b, w) := w.openPartition maxSize existing garbage size
  let (b, written, printed) := s.writePadded b data size
  (w.offset, { w with
    offset := w.offset + written
    partitionSize := w.partitionSize + written
    buffer := some b }, printed)

end TensorWriter

/-- The sizes of the partitions after one more record. -/
def addRecord (maxSize : ℕ) (sizes : List ℕ) (size : ℕ) : List ℕ :=
  match sizes.getLast? with
  | none => [size + padding size]
  | some last =>
    if maxSize < last + size then sizes ++ [size + padding size]
    else sizes.dropLast ++ [last + (size + padding size)]

/-- The files after some bytes more: at the end of the last partition, or in a new one. -/
def Extends (files files' : List (List Byte)) (added : List Byte) : Prop :=
  ∃ earlier last, (files = earlier ++ [last] ∨ files = earlier ∧ last = []) ∧
    files' = earlier ++ [last ++ added]

theorem Extends.flatten {files files' : List (List Byte)} {added : List Byte}
    (h : Extends files files' added) :
    files'.flatten = files.flatten ++ added := by
  obtain ⟨earlier, last, hfiles, rfl⟩ := h
  rcases hfiles with rfl | ⟨rfl, rfl⟩
  · simp
  · simp

namespace TensorWriter

/-- The offset is where the next record goes, and the current partition is in order. -/
structure Sound (s : BufferSizes) (w : TensorWriter) : Prop where
  offset : w.offset = w.files.flatten.length
  closed : w.buffer = none → w.closed = []
  buffer : ∀ b ∈ w.buffer,
    s.Sound b ∧ 8 ∣ b.contents.length ∧ w.partitionSize = b.contents.length

theorem sound_empty (s : BufferSizes) : ({} : TensorWriter).Sound s :=
  ⟨rfl, fun _ => rfl, fun _ hb => absurd hb (by simp)⟩

/-- The partitions when a record comes: those there were, or with an empty one after them. -/
def FilesBefore (w : TensorWriter) (opened : AlignedBuffer × TensorWriter) : Prop :=
  w.files = opened.2.closed ++ [opened.1.contents] ∨
    w.files = opened.2.closed ∧ opened.1.contents = []

theorem FilesBefore.flatten {w : TensorWriter} {opened : AlignedBuffer × TensorWriter}
    (h : w.FilesBefore opened) :
    opened.2.closed.flatten ++ opened.1.contents = w.files.flatten := by
  rcases h with h | ⟨h, hempty⟩
  · rw [h, List.flatten_append, List.flatten_singleton]
  · rw [h, hempty, List.append_nil]

theorem openPartition_spec {s : BufferSizes} (maxSize : ℕ) {w : TensorWriter} (h : w.Sound s)
    (garbage : ℕ → ℕ → Byte) (size : ℕ) :
    let opened := w.openPartition maxSize [] garbage size
    s.Sound opened.1 ∧ 8 ∣ opened.1.contents.length ∧
      opened.2.partitionSize = opened.1.contents.length ∧ opened.2.offset = w.offset ∧
      w.FilesBefore opened ∧
      opened.2.closed.map List.length ++ [opened.1.contents.length + (size + padding size)] =
        addRecord maxSize (w.files.map List.length) size := by
  have hfresh : AlignedBuffer.openFile (([] : List (List Byte)).getD w.files.length [])
      (garbage w.files.length) = .openFile [] (garbage w.files.length) := rfl
  unfold openPartition addRecord
  rw [hfresh]
  cases hbuffer : w.buffer with
  | none =>
    have hclosed := h.closed hbuffer
    have hfiles : w.files = [] := by simp [files, hbuffer, hclosed]
    simp [hfiles, hclosed, s.openFile_sound, FilesBefore]
  | some b =>
    obtain ⟨hsound, haligned, hsize⟩ := h.buffer b hbuffer
    have hfiles : w.files = w.closed ++ [b.contents] := by
      simp [files, hbuffer, hsound.close_eq]
    have hlast : (w.files.map List.length).getLast? = some b.contents.length := by
      simp [hfiles]
    rw [hlast, hsize]
    dsimp only
    split_ifs with hfull
    · simp [hfiles, hsound.close_eq, s.openFile_sound, FilesBefore]
    · simp [hfiles, hsound, haligned, hsize, FilesBefore]

/-- **`writeRecord`**: the record, padded, is appended to the partition that is open, or to a new
one, at the offset returned; nothing is printed. -/
theorem writeRecord_spec {s : BufferSizes} (maxSize : ℕ) {w : TensorWriter} (h : w.Sound s)
    (garbage : ℕ → ℕ → Byte) (data : ℕ → Byte) (size : ℕ) :
    let result := w.writeRecord s maxSize [] garbage data size
    result.1 = w.files.flatten.length ∧ result.2.2 = [] ∧ result.2.1.Sound s ∧
      result.2.1.files.map List.length = addRecord maxSize (w.files.map List.length) size ∧
      ∃ pad, pad.length = padding size ∧
        Extends w.files result.2.1.files (slice data 0 size ++ pad) := by
  obtain ⟨hsound, haligned, hsize, hoffset, hbefore, hsizes⟩ :=
    openPartition_spec maxSize h garbage size
  have hflatten := hbefore.flatten
  unfold writeRecord
  generalize w.openPartition maxSize [] garbage size = opened at *
  obtain ⟨b, w'⟩ := opened
  dsimp only at *
  obtain ⟨hwritten, hprinted, hsound', pad, hpad, hcontents⟩ :=
    BufferSizes.writePadded_spec hsound haligned data size
  generalize s.writePadded b data size = result at *
  obtain ⟨b', written, printed⟩ := result
  dsimp only at *
  subst hwritten
  have hlength : b'.contents.length = b.contents.length + (size + padding size) := by
    simp [hcontents, hpad]
  have hfiles : ∀ offset partitionSize,
      (⟨offset, partitionSize, w'.closed, some b'⟩ : TensorWriter).files =
        w'.closed ++ [b'.contents] := by
    intro offset partitionSize
    simp [files, hsound'.close_eq]
  have himage : (w'.closed ++ [b'.contents]).flatten =
      w.files.flatten ++ (slice data 0 size ++ pad) := by
    rw [List.flatten_append, List.flatten_singleton, hcontents, ← List.append_assoc, hflatten]
  refine ⟨hoffset.trans h.offset, hprinted, ⟨?_, fun hnone => absurd hnone (by simp), ?_⟩, ?_,
    pad, hpad, w'.closed, b.contents, hbefore, ?_⟩
  · rw [hfiles, himage, hoffset, h.offset]
    simp [hpad]
  · intro b'' hb''
    obtain rfl := Option.some.inj hb''
    refine ⟨hsound', ?_, ?_⟩
    · rw [hlength]
      exact Nat.dvd_add haligned (dvd_padded size)
    · rw [hlength, hsize]
  · rw [hfiles, ← hsizes, ← hlength]
    simp
  · rw [hfiles, hcontents]

/-- What stands behind the record in the memory does not matter. -/
theorem writeRecord_congr {s : BufferSizes} (maxSize : ℕ) (existing : List (List Byte))
    (w : TensorWriter) (garbage : ℕ → ℕ → Byte) {data data' : ℕ → Byte} {size : ℕ}
    (h : ∀ i < size, data i = data' i) :
    w.writeRecord s maxSize existing garbage data size =
      w.writeRecord s maxSize existing garbage data' size := by
  unfold writeRecord
  dsimp only
  rw [BufferSizes.writePadded_congr _ h]

end TensorWriter

/-! ## `SaveTensors` -/

/-- The local variables of `SaveTensors`. -/
structure SaveState where
  writer : TensorWriter := {}
  tensorOffsets : OrderedDict String ℕ := .empty
  /-- The name under which the storage at an address was written. -/
  dataRecord : OrderedDict ℕ String := .empty

section SaveTensors

-- `memory` is what the storages hold, by address; `garbage` is what the buffers held before
variable (maxSize : ℕ) (existing : List (List Byte)) (garbage memory : ℕ → ℕ → Byte)
  (tensorData : OrderedDict String (ℕ × ℕ))

/-- The loop body of `SaveTensors`: a storage is known by its address, whatever its size. -/
def saveStep (st : SaveState) (name : String) : SaveState :=
  let (base, size) := (tensorData.get? name).getD (0, 0)
  match st.dataRecord.get? base with
  | some first =>
    { st with tensorOffsets := st.tensorOffsets.set name ((st.tensorOffsets.get? first).getD 0) }
  | none =>
    let (offset, writer, _) :=
      st.writer.writeRecord .source maxSize existing garbage (memory base) size
    { writer := writer
      tensorOffsets := st.tensorOffsets.set name offset
      dataRecord := st.dataRecord.set base name }

/-- `SaveTensors`: the offsets of the tensors, and the partition files that were written. -/
def saveTensors (tensorNames : List String) : OrderedDict String ℕ × List (List Byte) :=
  let st := tensorNames.foldl (saveStep maxSize existing garbage memory tensorData) {}
  (st.tensorOffsets, st.writer.files)

/-- The room a storage takes in the image. -/
def paddedSize (storageSize : ℕ → ℕ) (address : ℕ) : ℕ :=
  storageSize address + padding (storageSize address)

/-- The storages at these addresses, each once, and where they are in the image. -/
def imageLayout (storageSize : ℕ → ℕ) (addresses : List ℕ) : List (ℕ × ℕ) :=
  pack (paddedSize storageSize) 0 addresses.eraseDups

/-- The sizes of the partitions for the storages at these addresses. -/
def partitionSizes (maxSize : ℕ) (storageSize : ℕ → ℕ) (addresses : List ℕ) : List ℕ :=
  (addresses.eraseDups.map storageSize).foldl (addRecord maxSize) []

/-- What the state of `SaveTensors` says after tensors at these addresses. -/
structure Saved (storageSize : ℕ → ℕ) (addressOf : String → ℕ) (done : List String)
    (st : SaveState) : Prop where
  writer : st.writer.Sound .source
  sizes : st.writer.files.map List.length =
    partitionSizes maxSize storageSize (done.map addressOf)
  length : st.writer.files.flatten.length =
    total (paddedSize storageSize) (done.map addressOf).eraseDups
  bytes : ∀ address offset, (address, offset) ∈ imageLayout storageSize (done.map addressOf) →
    ∀ i < storageSize address, st.writer.files.flatten[offset + i]? = some (memory address i)
  fresh : ∀ address, st.dataRecord.get? address = none ↔ address ∉ done.map addressOf
  recorded : ∀ address name, st.dataRecord.get? address = some name → name ∈ done ∧
    addressOf name = address
  offsets : ∀ name ∈ done, ∃ offset, st.tensorOffsets.get? name = some offset ∧
    (addressOf name, offset) ∈ imageLayout storageSize (done.map addressOf)

variable {maxSize memory}

theorem saved_empty (storageSize : ℕ → ℕ) (addressOf : String → ℕ) :
    Saved maxSize memory storageSize addressOf [] {} where
  writer := TensorWriter.sound_empty _
  sizes := rfl
  length := rfl
  bytes := fun _ _ h => absurd h (by simp [imageLayout, pack])
  fresh := by simp
  recorded := fun _ _ h => absurd h (by simp)
  offsets := by simp

theorem eraseDups_snoc (addresses : List ℕ) (address : ℕ) :
    (addresses ++ [address]).eraseDups =
      addresses.eraseDups ++ if address ∈ addresses then [] else [address] := by
  rw [List.eraseDups_append]
  split_ifs with h
  · simp [List.removeAll, h]
  · simp [List.removeAll, h, List.eraseDups_cons]

variable {garbage tensorData} {storageSize : ℕ → ℕ} {addressOf : String → ℕ} {done : List String}
  {st : SaveState} {name : String}

/-- A tensor whose storage has been written already. -/
theorem Saved.known (h : Saved maxSize memory storageSize addressOf done st)
    (hnew : name ∉ done) {first : String}
    (hfirst : st.dataRecord.get? (addressOf name) = some first) :
    Saved maxSize memory storageSize addressOf (done ++ [name])
      { st with
        tensorOffsets := st.tensorOffsets.set name ((st.tensorOffsets.get? first).getD 0) } := by
  have hmem : addressOf name ∈ done.map addressOf := by
    by_contra hout
    rw [(h.fresh _).mpr hout] at hfirst
    exact absurd hfirst (by simp)
  have herase : ((done ++ [name]).map addressOf).eraseDups = (done.map addressOf).eraseDups := by
    rw [List.map_append, List.map_singleton, eraseDups_snoc, if_pos hmem, List.append_nil]
  have hlayout : imageLayout storageSize ((done ++ [name]).map addressOf) =
      imageLayout storageSize (done.map addressOf) := by
    rw [imageLayout, imageLayout, herase]
  obtain ⟨hdone, haddress⟩ := h.recorded _ _ hfirst
  obtain ⟨offset, hoffset, hpack⟩ := h.offsets first hdone
  refine
    { writer := h.writer
      sizes := by rw [partitionSizes, herase]; exact h.sizes
      length := by rw [herase]; exact h.length
      bytes := by rw [hlayout]; exact h.bytes
      fresh := fun address => ?_
      recorded := fun address name' hname' => ?_
      offsets := fun name' hname' => ?_ }
  · rw [h.fresh address, List.map_append, List.map_singleton, List.mem_append, List.mem_singleton]
    constructor
    · rintro hout (hin | rfl)
      · exact hout hin
      · exact hout hmem
    · exact fun hout hin => hout (.inl hin)
  · obtain ⟨hdone', haddress'⟩ := h.recorded address name' hname'
    exact ⟨List.mem_append_left _ hdone', haddress'⟩
  · rw [hlayout]
    rcases List.mem_append.mp hname' with hold | hlast
    · have hne : name ≠ name' := fun heq => hnew (heq ▸ hold)
      rw [OrderedDict.get?_set_of_ne _ _ hne]
      exact h.offsets name' hold
    · obtain rfl := List.mem_singleton.mp hlast
      rw [OrderedDict.get?_set_self, hoffset]
      exact ⟨offset, rfl, haddress ▸ hpack⟩

/-- A tensor with a new storage. -/
theorem Saved.written (h : Saved maxSize memory storageSize addressOf done st)
    (hnew : name ∉ done) (hfresh : st.dataRecord.get? (addressOf name) = none) {offset : ℕ}
    {writer : TensorWriter} {printed : List String}
    (hwrite : st.writer.writeRecord .source maxSize [] garbage (memory (addressOf name))
      (storageSize (addressOf name)) = (offset, writer, printed)) :
    Saved maxSize memory storageSize addressOf (done ++ [name])
      { writer := writer
        tensorOffsets := st.tensorOffsets.set name offset
        dataRecord := st.dataRecord.set (addressOf name) name } := by
  have hout := (h.fresh _).mp hfresh
  have herase : ((done ++ [name]).map addressOf).eraseDups =
      (done.map addressOf).eraseDups ++ [addressOf name] := by
    rw [List.map_append, List.map_singleton, eraseDups_snoc, if_neg hout]
  have hlayout : imageLayout storageSize ((done ++ [name]).map addressOf) =
      imageLayout storageSize (done.map addressOf) ++
        [(addressOf name, st.writer.files.flatten.length)] := by
    rw [imageLayout, imageLayout, herase, pack_append, Nat.zero_add, h.length]
    rfl
  obtain ⟨hoffset, -, hsound, hsizes, pad, hpad, hextends⟩ :=
    TensorWriter.writeRecord_spec maxSize h.writer garbage (memory (addressOf name))
      (storageSize (addressOf name))
  have himage := hextends.flatten
  rw [hwrite] at hoffset hsound hsizes himage
  dsimp only at hoffset hsound hsizes himage
  refine
    { writer := hsound
      sizes := ?_
      length := ?_
      bytes := fun address offset' hpack i hi => ?_
      fresh := fun address => ?_
      recorded := fun address name' hname' => ?_
      offsets := fun name' hname' => ?_ }
  · rw [hsizes, h.sizes, partitionSizes, partitionSizes, herase, List.map_append,
      List.foldl_append]
    rfl
  · rw [himage, herase, total_append, ← h.length]
    simp [hpad, paddedSize]
  · rw [himage]
    rw [hlayout] at hpack
    rcases List.mem_append.mp hpack with hold | hlast
    · have hbytes := h.bytes address offset' hold i hi
      rw [List.getElem?_append_left (List.getElem?_eq_some_iff.mp hbytes).1]
      exact hbytes
    · obtain ⟨rfl, rfl⟩ := Prod.mk.inj (List.mem_singleton.mp hlast)
      rw [List.getElem?_append_right (Nat.le_add_right _ _), Nat.add_sub_cancel_left,
        List.getElem?_append_left (by rw [length_slice]; exact hi), getElem?_slice _ hi,
        Nat.zero_add]
  · rw [OrderedDict.get?_set, List.map_append, List.map_singleton, List.mem_append,
      List.mem_singleton]
    split_ifs with heq
    · simp [heq]
    · rw [h.fresh address]
      constructor
      · rintro hout (hin | rfl)
        · exact hout hin
        · exact heq rfl
      · exact fun hout hin => hout (.inl hin)
  · rw [OrderedDict.get?_set] at hname'
    split_ifs at hname' with heq
    · obtain rfl := Option.some.inj hname'
      exact ⟨List.mem_append_right _ (List.mem_singleton_self _), heq⟩
    · obtain ⟨hdone', haddress'⟩ := h.recorded address name' hname'
      exact ⟨List.mem_append_left _ hdone', haddress'⟩
  · rw [hlayout]
    rcases List.mem_append.mp hname' with hold | hlast
    · have hne : name ≠ name' := fun heq => hnew (heq ▸ hold)
      obtain ⟨offset', hoffset', hpack⟩ := h.offsets name' hold
      refine ⟨offset', ?_, List.mem_append_left _ hpack⟩
      rw [OrderedDict.get?_set_of_ne _ _ hne]
      exact hoffset'
    · obtain rfl := List.mem_singleton.mp hlast
      refine ⟨offset, OrderedDict.get?_set_self _ _ _, List.mem_append_right _ ?_⟩
      rw [hoffset]
      exact List.mem_singleton_self _

/-- A turn of the loop, for the first tensor of an address with the size of the storage. -/
theorem Saved.step (h : Saved maxSize memory storageSize addressOf done st) (hnew : name ∉ done)
    {size : ℕ} (hdata : tensorData.get? name = some (addressOf name, size))
    (hsize : addressOf name ∉ done.map addressOf → size = storageSize (addressOf name)) :
    Saved maxSize memory storageSize addressOf (done ++ [name])
      (saveStep maxSize [] garbage memory tensorData st name) := by
  unfold saveStep
  rw [hdata]
  dsimp only [Option.getD_some]
  split
  · exact h.known hnew ‹_›
  · have hfresh := ‹st.dataRecord.get? (addressOf name) = none›
    obtain rfl := hsize ((h.fresh _).mp hfresh)
    exact h.written hnew hfresh rfl

/-- The size that the first of the names with that address gives it. -/
def firstSize (addressOf sizeOf : String → ℕ) (names : List String) (address : ℕ) : ℕ :=
  ((names.find? fun name => addressOf name = address).map sizeOf).getD 0

variable {sizeOf : String → ℕ} {names : List String}

variable (sizeOf) in
theorem firstSize_of_notMem {before : List String} (after : List String)
    (h : addressOf name ∉ before.map addressOf) :
    firstSize addressOf sizeOf (before ++ name :: after) (addressOf name) = sizeOf name := by
  have hbefore : before.find? (fun name' => addressOf name' = addressOf name) = none := by
    refine List.find?_eq_none.mpr fun name' hname' heq => h ?_
    exact List.mem_map.mpr ⟨name', hname', of_decide_eq_true heq⟩
  simp [firstSize, List.find?_append, hbefore]

/-- **`SaveTensors`** writes each storage once, with the size of its first tensor. -/
theorem saveTensors_saved (hnodup : names.Nodup)
    (hdata : ∀ name ∈ names, tensorData.get? name = some (addressOf name, sizeOf name))
    {before after : List String} (hsplit : names = before ++ after) :
    Saved maxSize memory (firstSize addressOf sizeOf names) addressOf before
      (before.foldl (saveStep maxSize [] garbage memory tensorData) {}) := by
  induction before using List.reverseRecOn generalizing after with
  | nil => exact saved_empty _ addressOf
  | append_singleton before name ih =>
    have hcons : names = before ++ name :: after := by
      rw [hsplit, List.append_assoc, List.singleton_append]
    have hnew : name ∉ before := by
      rw [hcons, List.nodup_append] at hnodup
      exact fun hin => hnodup.2.2 name hin name List.mem_cons_self rfl
    rw [List.foldl_append]
    refine (ih hcons).step hnew (hdata name (by simp [hcons])) fun hout => ?_
    rw [hcons, firstSize_of_notMem sizeOf after hout]

/-- Memories that agree as far as the storages are written leave the same state. -/
theorem saveTensors_congr {memory' : ℕ → ℕ → Byte} (hnodup : names.Nodup)
    (hdata : ∀ name ∈ names, tensorData.get? name = some (addressOf name, sizeOf name))
    (hmemory : ∀ address, ∀ i < firstSize addressOf sizeOf names address,
      memory address i = memory' address i)
    {before after : List String} (hsplit : names = before ++ after) :
    before.foldl (saveStep maxSize [] garbage memory tensorData) {} =
      before.foldl (saveStep maxSize [] garbage memory' tensorData) {} := by
  induction before using List.reverseRecOn generalizing after with
  | nil => rfl
  | append_singleton before name ih =>
    have hcons : names = before ++ name :: after := by
      rw [hsplit, List.append_assoc, List.singleton_append]
    have hsaved : Saved maxSize memory (firstSize addressOf sizeOf names) addressOf before
        (before.foldl (saveStep maxSize [] garbage memory tensorData) {}) :=
      saveTensors_saved hnodup hdata hcons
    rw [List.foldl_append, List.foldl_append, ← ih hcons, List.foldl_cons, List.foldl_cons]
    generalize before.foldl (saveStep maxSize [] garbage memory tensorData) {} = st at *
    rw [List.foldl_nil, List.foldl_nil]
    unfold saveStep
    rw [hdata name (by simp [hcons])]
    dsimp only [Option.getD_some]
    split
    · rfl
    · have hout := (hsaved.fresh _).mp ‹_›
      have hsize := firstSize_of_notMem sizeOf after hout
      rw [← hcons] at hsize
      rw [TensorWriter.writeRecord_congr maxSize [] st.writer garbage fun i hi =>
        hmemory (addressOf name) i (hsize ▸ hi)]

end SaveTensors

end Store
end SpotServe
