import SpotServe.Store.RoundTrip

/-!
# Saving into a directory that holds a checkpoint

A buffer opens its file without emptying it, and no partition file is ever removed.  The writes
themselves do not look at what is there: the run of the writer in a directory that holds files is
the run in an empty one, with the old files shining through wherever nothing was written
(`TensorWriter.onto`, `saveTensors_onto`).  So what a second save leaves behind is its own image
exactly when the old partitions are no more than the new ones, and none of them is longer.  The
entries refer to bytes of the storages when the first tensor of every address covers the others
(`resave_iff`).

Every `pwrite` is assumed to transfer all its bytes; in the source the destructor of the buffer does
not look at what it returns.

* `BufferSizes.writePadded_onto`: one record, over an old file.
* `saveTensors_onto`: the whole save; the offsets do not depend on the old files.
* `saveDict_resaved_iff`: over any old partition files.
* `resave_iff`: over those of an earlier save.
-/

namespace SpotServe
namespace Store

open Py Packing

/-! ## Writing over what is there -/

/-- `fresh`, written over the beginning of `old`. -/
def overlay (fresh old : List Byte) : List Byte := fresh ++ old.drop fresh.length

theorem length_overlay (fresh old : List Byte) :
    (overlay fresh old).length = max fresh.length old.length := by
  rw [overlay, List.length_append, List.length_drop]
  omega

theorem overlay_of_length_le {fresh old : List Byte} (h : old.length ≤ fresh.length) :
    overlay fresh old = fresh := by
  rw [overlay, List.drop_eq_nil_of_le h, List.append_nil]

/-- Writing at the end of what is new. -/
theorem pwrite_overlay (fresh old data : List Byte) :
    pwrite (overlay fresh old) data fresh.length = overlay (fresh ++ data) old := by
  have htake : (overlay fresh old).take fresh.length = fresh := by
    rw [overlay, List.take_left]
  have hzeros : fresh.length - (overlay fresh old).length = 0 := by
    rw [length_overlay]
    omega
  have hdrop : (overlay fresh old).drop (fresh.length + data.length) =
      old.drop (fresh ++ data).length := by
    rw [overlay, List.drop_length_add_append, List.drop_drop, List.length_append]
  rw [pwrite, htake, hzeros, hdrop, List.replicate_zero, List.append_nil, overlay]

/-- The files of a directory that holds `existing`, after `fresh` was written to the first of
them. -/
def overlayFiles (existing fresh : List (List Byte)) : List (List Byte) :=
  fresh.mapIdx fun i file => overlay file (existing.getD i [])

theorem length_overlayFiles (existing fresh : List (List Byte)) :
    (overlayFiles existing fresh).length = fresh.length := List.length_mapIdx

theorem overlayFiles_append_singleton (existing fresh : List (List Byte)) (file : List Byte) :
    overlayFiles existing (fresh ++ [file]) =
      overlayFiles existing fresh ++ [overlay file (existing.getD fresh.length [])] := by
  simp [overlayFiles, List.mapIdx_append]

/-! ### A buffer over an old file -/

namespace AlignedBuffer

/-- The same buffer on a file that held `old` before. -/
def onto (old : List Byte) (b : AlignedBuffer) : AlignedBuffer :=
  { b with file := overlay b.file old }

/-- The next write goes to the end of the file. -/
def AtEnd (b : AlignedBuffer) : Prop := b.fileOffset = b.file.length

theorem AtEnd.pwrite_onto {b : AlignedBuffer} (h : b.AtEnd) (old data : List Byte) :
    pwrite (b.onto old).file data b.fileOffset =
      overlay (pwrite b.file data b.fileOffset) old := by
  rw [h, pwrite_length]
  exact pwrite_overlay _ _ _

theorem openFile_atEnd (garbage : ℕ → Byte) : (openFile [] garbage).AtEnd := rfl

theorem writeDirect_onto {b : AlignedBuffer} (h : b.AtEnd) (old : List Byte) (data : ℕ → Byte)
    (written count : ℕ) :
    (b.onto old).writeDirect data written count = (b.writeDirect data written count).onto old ∧
      (b.writeDirect data written count).AtEnd := by
  unfold writeDirect
  split_ifs
  · exact ⟨rfl, h⟩
  · constructor
    · simp only [onto, AlignedBuffer.mk.injEq, and_true]
      exact h.pwrite_onto old _
    · show b.fileOffset + count = (pwrite b.file _ b.fileOffset).length
      rw [h, pwrite_length, List.length_append, length_slice]

theorem close_onto {b : AlignedBuffer} (h : b.AtEnd) (old : List Byte) :
    (b.onto old).close = overlay b.close old := by
  have hpos : (b.onto old).bufPos = b.bufPos := rfl
  unfold close
  rw [hpos]
  split_ifs
  · rfl
  · exact h.pwrite_onto old _

end AlignedBuffer

namespace BufferSizes

variable (s : BufferSizes) {b : AlignedBuffer}

theorem flush_onto (h : b.AtEnd) (old : List Byte) :
    s.flush (b.onto old) = (s.flush b).onto old ∧ (s.flush b).AtEnd := by
  constructor
  · simp only [flush, AlignedBuffer.onto, AlignedBuffer.mk.injEq, and_true]
    exact h.pwrite_onto old _
  · show b.fileOffset + s.bufferSize = (pwrite b.file _ b.fileOffset).length
    rw [h, pwrite_length, List.length_append, length_slice]

theorem writeBuffered_onto (h : b.AtEnd) (old : List Byte) (data : ℕ → Byte)
    (written count : ℕ) :
    s.writeBuffered (b.onto old) data written count =
        (s.writeBuffered b data written count).onto old ∧
      (s.writeBuffered b data written count).AtEnd := by
  have hcopied : (⟨b.file, b.fileOffset, copyRange data written count b.bufPos b.buffer,
      b.bufPos + count⟩ : AlignedBuffer).AtEnd := h
  unfold writeBuffered
  by_cases hfull : b.bufPos + count = s.bufferSize
  · simp only [AlignedBuffer.onto, hfull, if_true]
    rw [hfull] at hcopied
    exact s.flush_onto hcopied old
  · simp only [AlignedBuffer.onto, hfull, if_false, true_and]
    exact hcopied

/-- The loop writes the same bytes to the same places. -/
theorem writeLoop_onto (old : List Byte) (data : ℕ → Byte) (size fuel : ℕ) (h : b.AtEnd)
    (written : ℕ) :
    let result := s.writeLoop data size fuel b written
    s.writeLoop data size fuel (b.onto old) written = (result.1.onto old, result.2) ∧
      result.1.AtEnd := by
  induction fuel generalizing b written with
  | zero => exact ⟨rfl, h⟩
  | succ fuel ih =>
    unfold writeLoop
    split_ifs
    · have hdirect : s.directSize (b.onto old) (size - written) =
          s.directSize b (size - written) := rfl
      obtain ⟨honto, hend⟩ :=
        AlignedBuffer.writeDirect_onto h old data written (s.directSize b (size - written))
      dsimp only
      rw [hdirect, honto]
      generalize b.writeDirect data written (s.directSize b (size - written)) = b₁ at *
      generalize written + s.directSize b (size - written) = written₁
      obtain ⟨honto', hend'⟩ := s.writeBuffered_onto hend old data written₁
        (min (size - written₁) (s.bufferSize - b₁.bufPos))
      have hpos : (b₁.onto old).bufPos = b₁.bufPos := rfl
      rw [hpos, honto']
      exact ih hend' _
    · exact ⟨rfl, h⟩

theorem writePadding_onto (h : b.AtEnd) (old : List Byte) (padding : ℕ) :
    let result := s.writePadding b padding
    s.writePadding (b.onto old) padding = (result.1.onto old, result.2) ∧ result.1.AtEnd := by
  have hmoved : (⟨b.file, b.fileOffset, b.buffer, b.bufPos + padding⟩ : AlignedBuffer).AtEnd := h
  obtain ⟨hflush, hend⟩ := s.flush_onto hmoved old
  unfold writePadding
  split_ifs
  · exact ⟨rfl, h⟩
  · dsimp only [AlignedBuffer.onto] at *
    split_ifs
    · exact ⟨rfl, hmoved⟩
    · exact ⟨by rw [hflush], hend⟩
    · exact ⟨rfl, hmoved⟩

/-- A record, over an old file. -/
theorem writePadded_onto (h : b.AtEnd) (old : List Byte) (data : ℕ → Byte) (size : ℕ) :
    let result := s.writePadded b data size
    s.writePadded (b.onto old) data size = (result.1.onto old, result.2) ∧ result.1.AtEnd := by
  obtain ⟨hdata, hend⟩ := s.writeLoop_onto old data size size h 0
  unfold writePadded writeData
  rw [hdata]
  dsimp only at *
  split_ifs
  · exact ⟨rfl, hend⟩
  · obtain ⟨hpadding, hend'⟩ := s.writePadding_onto hend old (padding size)
    exact ⟨by rw [hpadding], hend'⟩

end BufferSizes

/-! ### A writer over old files -/

namespace TensorWriter

variable (maxSize : ℕ) (existing : List (List Byte))

/-- The same writer in a directory that held `existing` before. -/
def onto (w : TensorWriter) : TensorWriter :=
  { w with
    closed := overlayFiles existing w.closed
    buffer := w.buffer.map (AlignedBuffer.onto (existing.getD w.closed.length [])) }

/-- The buffer of the writer writes to the end of its file. -/
def AtEnd (w : TensorWriter) : Prop := ∀ b ∈ w.buffer, b.AtEnd

theorem files_onto {w : TensorWriter} (h : w.AtEnd) :
    (w.onto existing).files = overlayFiles existing w.files := by
  cases hbuffer : w.buffer with
  | none => simp [files, onto, hbuffer]
  | some b =>
    have hclose := AlignedBuffer.close_onto (h b hbuffer)
        (existing.getD w.closed.length [])
    simp only [files, onto, hbuffer, Option.map_some, Option.toList_some]
    rw [hclose, overlayFiles_append_singleton]

theorem length_files_onto (w : TensorWriter) :
    (w.onto existing).files.length = w.files.length := by
  cases hbuffer : w.buffer <;> simp [files, onto, hbuffer, length_overlayFiles]

/-- The partition for the next record. -/
theorem openPartition_onto {w : TensorWriter} (h : w.AtEnd) (garbage : ℕ → ℕ → Byte)
    (size : ℕ) :
    let opened := w.openPartition maxSize [] garbage size
    let opened' := (w.onto existing).openPartition maxSize existing garbage size
    opened.1.AtEnd ∧ opened'.1 = opened.1.onto (existing.getD opened.2.closed.length []) ∧
      opened'.2.closed = overlayFiles existing opened.2.closed ∧
      opened'.2.offset = opened.2.offset ∧ opened'.2.partitionSize = opened.2.partitionSize := by
  have hlength := length_files_onto existing w
  unfold openPartition
  cases hbuffer : w.buffer with
  | none =>
    have honto : (w.onto existing).buffer = none := by simp [onto, hbuffer]
    have hclosed : w.files.length = w.closed.length := by simp [files, hbuffer]
    rw [honto, hlength, hclosed]
    exact ⟨AlignedBuffer.openFile_atEnd _, rfl, rfl, rfl, rfl⟩
  | some b =>
    have honto : (w.onto existing).buffer =
        some (b.onto (existing.getD w.closed.length [])) := by simp [onto, hbuffer]
    have hclosed : w.files.length = (w.closed ++ [b.close]).length := by simp [files, hbuffer]
    rw [honto, hlength]
    dsimp only
    have hsize : (w.onto existing).partitionSize = w.partitionSize := rfl
    rw [hsize]
    split_ifs
    · have hclose := AlignedBuffer.close_onto (h b hbuffer)
        (existing.getD w.closed.length [])
      rw [hclosed, overlayFiles_append_singleton]
      exact ⟨AlignedBuffer.openFile_atEnd _, rfl, by rw [hclose]; rfl, rfl, rfl⟩
    · exact ⟨h b hbuffer, rfl, rfl, rfl, rfl⟩

/-- A record goes to the same offset, whatever the directory holds. -/
theorem writeRecord_onto (s : BufferSizes) {w : TensorWriter} (h : w.AtEnd)
    (garbage : ℕ → ℕ → Byte) (data : ℕ → Byte) (size : ℕ) :
    let result := w.writeRecord s maxSize [] garbage data size
    (w.onto existing).writeRecord s maxSize existing garbage data size =
      (result.1, result.2.1.onto existing, result.2.2) ∧ result.2.1.AtEnd := by
  obtain ⟨hend, hbuffer, hclosed, hoffset, hsize⟩ :=
    openPartition_onto maxSize existing h garbage size
  unfold writeRecord
  generalize w.openPartition maxSize [] garbage size = opened at *
  generalize (w.onto existing).openPartition maxSize existing garbage size = opened' at *
  obtain ⟨b, w₁⟩ := opened
  obtain ⟨b', w₁'⟩ := opened'
  dsimp only at *
  subst hbuffer
  obtain ⟨hpadded, hend'⟩ :=
    s.writePadded_onto hend (existing.getD w₁.closed.length []) data size
  rw [hpadded]
  refine ⟨?_, ?_⟩
  · simp only [onto, hclosed, hoffset, hsize, Option.map_some]
  · intro b'' hb''
    obtain rfl := Option.some.inj hb''
    exact hend'

end TensorWriter

/-! ## Saving again -/

section Save

variable (maxSize : ℕ) (existing : List (List Byte)) (garbage memory : ℕ → ℕ → Byte)

/-- The same state of `SaveTensors` in a directory that held `existing` before. -/
def SaveState.onto (st : SaveState) : SaveState := { st with writer := st.writer.onto existing }

variable (tensorData : OrderedDict String (ℕ × ℕ))

theorem saveStep_onto {st : SaveState} (h : st.writer.AtEnd) (name : String) :
    let next := saveStep maxSize [] garbage memory tensorData st name
    saveStep maxSize existing garbage memory tensorData (st.onto existing) name =
      next.onto existing ∧ next.writer.AtEnd := by
  have hrecord : (st.onto existing).dataRecord = st.dataRecord := rfl
  unfold saveStep
  dsimp only
  rw [hrecord]
  split
  · exact ⟨rfl, h⟩
  · obtain ⟨hwrite, hend⟩ := TensorWriter.writeRecord_onto maxSize existing .source h garbage
      (memory ((tensorData.get? name).getD (0, 0)).1) ((tensorData.get? name).getD (0, 0)).2
    have hwriter : (st.onto existing).writer = st.writer.onto existing := rfl
    rw [hwriter, hwrite]
    exact ⟨rfl, hend⟩

/-- **The run over old files** is the run in an empty directory. -/
theorem saveTensors_onto (tensorNames : List String) :
    let saved := saveTensors maxSize [] garbage memory tensorData tensorNames
    saveTensors maxSize existing garbage memory tensorData tensorNames =
      (saved.1, overlayFiles existing saved.2) := by
  suffices h : ∀ st : SaveState, st.writer.AtEnd →
      let last := tensorNames.foldl (saveStep maxSize [] garbage memory tensorData) st
      tensorNames.foldl (saveStep maxSize existing garbage memory tensorData)
        (st.onto existing) = last.onto existing ∧ last.writer.AtEnd by
    have hempty : ({} : SaveState) = ({} : SaveState).onto existing := rfl
    obtain ⟨hrun, hend⟩ := h {} (fun _ hb => absurd hb (by simp))
    unfold saveTensors
    dsimp only
    rw [hempty, hrun]
    exact Prod.ext rfl (TensorWriter.files_onto existing hend)
  induction tensorNames with
  | nil => exact fun st h => ⟨rfl, h⟩
  | cons name rest ih =>
    intro st h
    obtain ⟨hstep, hend⟩ := saveStep_onto maxSize existing garbage memory tensorData h name
    simp only [List.foldl_cons, hstep]
    exact ih _ hend

end Save

/-- `Model::Initialize`: the paths and the sizes of the partitions, from 0 on until a file is
missing. -/
def initializePartitions (files : List (List Byte)) : List (String × ℕ) :=
  files.mapIdx fun partitionId file => ("tensor.data_" ++ toString partitionId, file.length)

/-- Two directories look the same to the loader when their files have the same lengths. -/
theorem initializePartitions_eq_iff {files files' : List (List Byte)} :
    initializePartitions files = initializePartitions files' ↔
      files.map List.length = files'.map List.length := by
  constructor
  · intro h
    have hsizes : ∀ files, (initializePartitions files).map Prod.snd = files.map List.length := by
      intro files
      refine List.ext_getElem? fun i => ?_
      simp [initializePartitions, Function.comp_def]
    rw [← hsizes, ← hsizes, h]
  · intro h
    refine List.ext_getElem? fun i => ?_
    have hi := congrArg (fun sizes : List ℕ => sizes[i]?) h
    simp only [List.getElem?_map] at hi
    simp only [initializePartitions, List.getElem?_mapIdx]
    cases hfile : files[i]? with
    | none =>
      cases hfile' : files'[i]? with
      | none => rfl
      | some file' => simp [hfile, hfile'] at hi
    | some file =>
      cases hfile' : files'[i]? with
      | none => simp [hfile, hfile'] at hi
      | some file' =>
        have hlength : file.length = file'.length := by simpa [hfile, hfile'] using hi
        rw [Option.map_some, Option.map_some, hlength]

/-- There are no more of the old partitions than of the new ones, and none is longer. -/
def Covers (new old : List ℕ) : Prop :=
  old.length ≤ new.length ∧ ∀ i < old.length, old.getD i 0 ≤ new.getD i 0

instance (new old : List ℕ) : Decidable (Covers new old) := inferInstanceAs (Decidable (_ ∧ _))

section Directory

variable (existing fresh : List (List Byte))

/-- The files of the directory, when `fresh` has been written. -/
theorem overlayFiles_of_covers (h : Covers (fresh.map List.length) (existing.map List.length)) :
    overlayFiles existing fresh ++ existing.drop fresh.length = fresh := by
  obtain ⟨hcount, hsizes⟩ := h
  simp only [List.length_map] at hcount hsizes
  rw [List.drop_eq_nil_of_le hcount, List.append_nil, overlayFiles]
  refine List.ext_getElem (List.length_mapIdx) fun i _ hi => ?_
  rw [List.getElem_mapIdx]
  refine overlay_of_length_le ?_
  by_cases hold : i < existing.length
  · have hle := hsizes i hold
    simpa [List.getD_eq_getElem?_getD, hold, hi] using hle
  · simp [List.getD_eq_getElem?_getD, List.getElem?_eq_none (not_lt.mp hold)]

theorem covers_of_lengths
    (h : (overlayFiles existing fresh ++ existing.drop fresh.length).map List.length =
      fresh.map List.length) :
    Covers (fresh.map List.length) (existing.map List.length) := by
  have hcount : existing.length ≤ fresh.length := by
    have hlength := congrArg List.length h
    simp only [List.length_map, List.length_append, length_overlayFiles, List.length_drop] at hlength
    omega
  refine ⟨by simpa using hcount, fun i hi => ?_⟩
  rw [List.length_map] at hi
  have hlt : i < fresh.length := by omega
  have hlonger := congrArg (fun sizes : List ℕ => sizes.getD i 0) h
  rw [List.drop_eq_nil_of_le hcount, List.append_nil] at hlonger
  simp only [overlayFiles, List.getD_eq_getElem?_getD, List.getElem?_map, List.getElem?_mapIdx,
    List.getElem?_eq_getElem hlt, List.getElem?_eq_getElem hi, Option.map_some, Option.getD_some,
    length_overlay] at hlonger
  simp only [List.getD_eq_getElem?_getD, List.getElem?_map, List.getElem?_eq_getElem hlt,
    List.getElem?_eq_getElem hi, Option.map_some, Option.getD_some]
  omega

end Directory

/-! ## When a second save replaces the first -/

section Resave

variable (maxSize : ℕ) (existing : List (List Byte)) (garbage memory : ℕ → ℕ → Byte)
  (sd : StateDict)

/-- The loader finds the partitions that a save into a new directory writes, and the entry of every
tensor is where the bytes of its storage are. -/
structure Resaved : Prop where
  partitions : initializePartitions (saveDict maxSize existing garbage memory sd).files =
    initializePartitions (saveDict maxSize [] garbage memory sd).files
  bytes : ∀ name t, sd.tensors.get? name = some t → ∃ entry,
    (saveDict maxSize existing garbage memory sd).tensorIndex.get? name = some entry ∧
    entry.record.size = t.storageSize ∧ ∀ i < entry.record.size,
      (saveDict maxSize existing garbage memory sd).files.flatten[entry.record.offset + i]? =
        some (memory t.dataPtr i)

/-- The first tensor of every address has the largest storage. -/
def StateDict.FirstCovers : Prop :=
  ∀ name t, sd.tensors.get? name = some t → t.storageSize ≤ sd.writtenSize t.dataPtr

/-- What a save leaves behind, over what was there. -/
theorem files_saveDict : (saveDict maxSize existing garbage memory sd).files =
    overlayFiles existing (saveDict maxSize [] garbage memory sd).files ++
      existing.drop (saveDict maxSize [] garbage memory sd).files.length := by
  unfold saveDict
  rw [saveTensors_onto]
  simp only [length_overlayFiles, List.drop_nil, List.append_nil]

/-- The entries do not depend on what was there. -/
theorem tensorIndex_saveDict : (saveDict maxSize existing garbage memory sd).tensorIndex =
    (saveDict maxSize [] garbage memory sd).tensorIndex := by
  unfold saveDict
  rw [saveTensors_onto]

/-- When the old partitions are covered, the directory is as after a save into a new one. -/
theorem saveDict_of_covers (h : Covers (sd.partitions maxSize) (existing.map List.length)) :
    saveDict maxSize existing garbage memory sd = saveDict maxSize [] garbage memory sd := by
  rw [← (saveDict_written maxSize garbage memory sd).sizes] at h
  have hfiles := files_saveDict maxSize existing garbage memory sd
  rw [overlayFiles_of_covers _ _ h] at hfiles
  have hindex := tensorIndex_saveDict maxSize existing garbage memory sd
  generalize saveDict maxSize existing garbage memory sd = checkpoint at *
  generalize saveDict maxSize [] garbage memory sd = checkpoint' at *
  cases checkpoint
  cases checkpoint'
  rw [Checkpoint.mk.injEq]
  exact ⟨hfiles, hindex⟩

variable {maxSize existing garbage memory sd}

/-- The loader finds the right partitions only when the old ones are covered. -/
theorem Resaved.covers (h : Resaved maxSize existing garbage memory sd) :
    Covers (sd.partitions maxSize) (existing.map List.length) := by
  have hsizes := initializePartitions_eq_iff.mp h.partitions
  rw [files_saveDict] at hsizes
  rw [← (saveDict_written maxSize garbage memory sd).sizes]
  exact covers_of_lengths _ _ hsizes

theorem resaved_of_covers (h : Covers (sd.partitions maxSize) (existing.map List.length))
    (hfirst : sd.FirstCovers) : Resaved maxSize existing garbage memory sd := by
  have heq := saveDict_of_covers maxSize existing garbage memory sd h
  have hwritten := saveDict_written maxSize garbage memory sd
  refine ⟨by rw [heq], fun name t ht => ?_⟩
  rw [heq]
  refine ⟨_, hwritten.index ▸ StateDict.get?_tensorIndex ht, rfl, fun i hi => ?_⟩
  exact hwritten.bytes name t ht i (lt_of_lt_of_le hi (hfirst name t ht))

/-- Over any partition files: the save is whole exactly when it covers them. -/
theorem saveDict_resaved_iff (hfirst : sd.FirstCovers) :
    Resaved maxSize existing garbage memory sd ↔
      Covers (sd.partitions maxSize) (existing.map List.length) :=
  ⟨Resaved.covers, fun h => resaved_of_covers h hfirst⟩

/-- A tensor with more bytes than are written of its storage: the files are the same whatever the
next byte is. -/
theorem firstCovers_of_resaved
    (h : ∀ memory : ℕ → ℕ → Byte, Resaved maxSize existing garbage memory sd) :
    sd.FirstCovers := by
  intro name t ht
  by_contra hlonger
  rw [not_le] at hlonger
  let ones : ℕ → ℕ → Byte := fun address i =>
    if address = t.dataPtr ∧ i = sd.writtenSize t.dataPtr then 1 else 0
  have hsame : saveDict maxSize existing garbage (fun _ _ => 0) sd =
      saveDict maxSize existing garbage ones sd := by
    rw [saveDict_of_covers maxSize existing garbage _ sd (h ones).covers,
      saveDict_of_covers maxSize existing garbage _ sd (h ones).covers]
    refine saveDict_congr _ _ _ sd fun address i hi => (if_neg ?_).symm
    rintro ⟨rfl, rfl⟩
    exact absurd hi (lt_irrefl _)
  obtain ⟨entry, hentry, hsize, hbytes⟩ := (h fun _ _ => 0).bytes name t ht
  obtain ⟨entry', hentry', -, hbytes'⟩ := (h ones).bytes name t ht
  rw [← hsame, hentry] at hentry'
  obtain rfl := Option.some.inj hentry'
  have hbyte := hbytes _ (hsize ▸ hlonger)
  rw [hsame, hbytes' _ (hsize ▸ hlonger)] at hbyte
  exact absurd (Option.some.inj hbyte) (by simp [ones])

/-- With the partitions of the source, the loader then gets what it gets from a new directory. -/
theorem loadDict_resaved {δ : Type*} [DecidableEq δ] (cfg : StoreConfig) (stale : ℕ → ℕ → Byte)
    (initial : δ → ℕ → Byte) (deviceMap : DeviceMap δ)
    (h : Covers (sd.partitions kPartitionMaxSize) (existing.map List.length)) :
    loadDict cfg stale initial (saveDict kPartitionMaxSize existing garbage memory sd) deviceMap =
      loadDict cfg stale initial (saveDict kPartitionMaxSize [] garbage memory sd) deviceMap := by
  rw [saveDict_of_covers kPartitionMaxSize existing garbage memory sd h]

end Resave

/-- **Saving again**: the second state dict replaces the first one exactly when it fills as many
partitions, each at least as far, and the first tensor of every address covers the others.  Whatever
the storages hold, it does not without the partitions. -/
theorem resave_iff (maxSize : ℕ) (s₁ s₂ : StateDict) :
    ((∀ garbage₁ memory₁ garbage₂ memory₂ : ℕ → ℕ → Byte,
      Resaved maxSize (saveDict maxSize [] garbage₁ memory₁ s₁).files garbage₂ memory₂ s₂) ↔
      Covers (s₂.partitions maxSize) (s₁.partitions maxSize) ∧ s₂.FirstCovers) ∧
    ∀ garbage₁ memory₁ garbage₂ memory₂ : ℕ → ℕ → Byte,
      Resaved maxSize (saveDict maxSize [] garbage₁ memory₁ s₁).files garbage₂ memory₂ s₂ →
        Covers (s₂.partitions maxSize) (s₁.partitions maxSize) := by
  have hsizes : ∀ garbage memory : ℕ → ℕ → Byte,
      (saveDict maxSize [] garbage memory s₁).files.map List.length = s₁.partitions maxSize :=
    fun garbage memory => (saveDict_written maxSize garbage memory s₁).sizes
  refine ⟨⟨fun h => ?_, fun h garbage₁ memory₁ garbage₂ memory₂ => ?_⟩,
    fun garbage₁ memory₁ garbage₂ memory₂ h => ?_⟩
  · have hcovers := (h (fun _ _ => 0) (fun _ _ => 0) (fun _ _ => 0) (fun _ _ => 0)).covers
    rw [hsizes] at hcovers
    exact ⟨hcovers, firstCovers_of_resaved fun memory₂ =>
      h (fun _ _ => 0) (fun _ _ => 0) (fun _ _ => 0) memory₂⟩
  · refine resaved_of_covers ?_ h.2
    rw [hsizes]
    exact h.1
  · have hcovers := h.covers
    rw [hsizes] at hcovers
    exact hcovers

/-- A state dict with one tensor, of `count` bytes. -/
def bytesDict (count : ℕ) : StateDict where
  tensors := ⟨[("w", ⟨1, count, 0, [count], [1], .uint8⟩)], by simp⟩
  inStorage := by
    intro name t ht index hindex
    have hmem := (OrderedDict.mem_entries_iff _).mpr ht
    obtain ⟨rfl, rfl⟩ := Prod.mk.inj (List.mem_singleton.mp hmem)
    obtain ⟨i, rest, hi, hrest, rfl⟩ := List.forall₂_cons_right_iff.mp hindex
    obtain rfl := List.forall₂_nil_right_iff.mp hrest
    simp only [elementOffset, List.zipWith_cons_cons, List.zipWith_nil_left, List.sum_cons,
      List.sum_nil, DType.itemsize]
    omega

/-- Eight bytes over sixteen: the loader finds a partition of sixteen. -/
theorem not_resaved_shorter : ¬ ∀ (maxSize : ℕ) (s₁ s₂ : StateDict)
    (garbage₁ memory₁ garbage₂ memory₂ : ℕ → ℕ → Byte),
    Resaved maxSize (saveDict maxSize [] garbage₁ memory₁ s₁).files garbage₂ memory₂ s₂ := by
  intro h
  have hcovers := (h kPartitionMaxSize (bytesDict 16) (bytesDict 8) (fun _ _ => 0) (fun _ _ => 1)
    (fun _ _ => 0) (fun _ _ => 2)).covers
  rw [(saveDict_written _ _ _ _).sizes] at hcovers
  exact absurd hcovers (by decide)

end Store
end SpotServe
