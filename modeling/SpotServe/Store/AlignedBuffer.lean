import SpotServe.Library.Packing
import Mathlib.Tactic.NormNum

/-!
# Writing a partition file through a buffer

An `AlignedBuffer` (`csrc/checkpoint/aligned_buffer.cpp`) collects what it is given and writes it to
its file a buffer at a time; whole pages of a large piece go to the file directly.  All writes go to
the end of the file, so what a buffer stands for is the file followed by what has not been flushed
yet (`AlignedBuffer.contents`), and every operation appends to that.

The page and the buffer are of any sizes that divide each other as the constants `kAlignment` and
`kBufferSize` of the source do (`BufferSizes.source`).

* `BufferSizes.writeData_spec`, `BufferSizes.writePadding_spec`: what is appended.
* `BufferSizes.writePadded_spec`: a record and its padding, with no message printed.
-/

namespace SpotServe
namespace Store

open Packing

abbrev Byte := UInt8

def kAlignment : ℕ := 4096

def kBufferSize : ℕ := 2 ^ 30

def kPartitionMaxSize : ℕ := 10 * 2 ^ 30

/-- `pwrite`, under the assumption that it transfers all bytes.  The destructor of the buffer does
not look at what it returns. -/
def pwrite (file data : List Byte) (offset : ℕ) : List Byte :=
  file.take offset ++ List.replicate (offset - file.length) 0 ++ data ++
    file.drop (offset + data.length)

@[simp] theorem pwrite_length (file data : List Byte) :
    pwrite file data file.length = file ++ data := by
  simp [pwrite]

/-! ## `AlignedBuffer` -/

/-- An `AlignedBuffer` and the file it writes to. -/
structure AlignedBuffer where
  file : List Byte
  fileOffset : ℕ
  buffer : ℕ → Byte
  bufPos : ℕ

namespace AlignedBuffer

/-- `AlignedBuffer::AlignedBuffer`: a file that is there is opened as it is, and the buffer holds
whatever was in its memory. -/
def openFile (old : List Byte) (garbage : ℕ → Byte) : AlignedBuffer := ⟨old, 0, garbage, 0⟩

/-- The direct write of a turn of the loop. -/
def writeDirect (b : AlignedBuffer) (data : ℕ → Byte) (written count : ℕ) : AlignedBuffer :=
  if count = 0 then b
  else { b with
    file := pwrite b.file (slice data written count) b.fileOffset
    fileOffset := b.fileOffset + count }

/-- `AlignedBuffer::~AlignedBuffer`: the file that is left behind. -/
def close (b : AlignedBuffer) : List Byte :=
  if b.bufPos = 0 then b.file else pwrite b.file (slice b.buffer 0 b.bufPos) b.fileOffset

/-- What has been written so far, on the file and in the buffer. -/
def contents (b : AlignedBuffer) : List Byte := b.file ++ slice b.buffer 0 b.bufPos

@[simp] theorem contents_openFile (garbage : ℕ → Byte) : (openFile [] garbage).contents = [] := rfl

end AlignedBuffer

/-! ## Sizes and writes -/

/-- The constants of a buffer: pages of whole words, and a buffer of whole pages. -/
structure BufferSizes where
  alignment : ℕ
  bufferSize : ℕ
  dvd_alignment : 8 ∣ alignment
  alignment_dvd : alignment ∣ bufferSize
  bufferSize_pos : 0 < bufferSize

namespace BufferSizes

/-- The constants of the source. -/
def source : BufferSizes where
  alignment := kAlignment
  bufferSize := kBufferSize
  dvd_alignment := by norm_num [kAlignment]
  alignment_dvd := by norm_num [kAlignment, kBufferSize]
  bufferSize_pos := by norm_num [kBufferSize]

variable (s : BufferSizes)

theorem dvd_bufferSize : 8 ∣ s.bufferSize :=
  s.dvd_alignment.trans s.alignment_dvd

/-- The whole buffer goes to the file. -/
def flush (b : AlignedBuffer) : AlignedBuffer :=
  { b with
    file := pwrite b.file (slice b.buffer 0 s.bufferSize) b.fileOffset
    fileOffset := b.fileOffset + s.bufferSize
    bufPos := 0 }

/-- The bytes that are written past the buffer: all whole pages of what is left. -/
def directSize (b : AlignedBuffer) (remaining : ℕ) : ℕ :=
  if s.bufferSize < remaining ∧ b.bufPos = 0 then remaining / s.alignment * s.alignment else 0

/-- The buffered write of a turn of the loop. -/
def writeBuffered (b : AlignedBuffer) (data : ℕ → Byte) (written count : ℕ) : AlignedBuffer :=
  let b := { b with
    buffer := copyRange data written count b.bufPos b.buffer
    bufPos := b.bufPos + count }
  if b.bufPos = s.bufferSize then s.flush b else b

/-- The loop of `writeData`; `fuel` bounds its turns. -/
def writeLoop (data : ℕ → Byte) (size : ℕ) : ℕ → AlignedBuffer → ℕ → AlignedBuffer × ℕ
  | 0, b, written => (b, written)
  | fuel + 1, b, written =>
    if written < size then
      let direct := s.directSize b (size - written)
      let b := b.writeDirect data written direct
      let written := written + direct
      let toWrite := min (size - written) (s.bufferSize - b.bufPos)
      writeLoop data size fuel (s.writeBuffered b data written toWrite) (written + toWrite)
    else (b, written)

/-- `AlignedBuffer::writeData`: each turn writes at least one byte. -/
def writeData (b : AlignedBuffer) (data : ℕ → Byte) (size : ℕ) : AlignedBuffer × ℕ :=
  s.writeLoop data size size b 0

/-- `AlignedBuffer::writePadding`, with what it prints to `std::cerr`. -/
def writePadding (b : AlignedBuffer) (padding : ℕ) : AlignedBuffer × ℕ × List String :=
  if 8 ≤ padding then (b, 0, ["Padding size should be less than 8 bytes"])
  else
    let b := { b with bufPos := b.bufPos + padding }
    if s.bufferSize < b.bufPos then (b, 0, ["Padding size is too large"])
    else if b.bufPos = s.bufferSize then (s.flush b, padding, [])
    else (b, padding, [])

/-- The file ends where the next write goes, the buffer has room, and the file holds whole
words. -/
structure Sound (b : AlignedBuffer) : Prop where
  fileOffset : b.fileOffset = b.file.length
  bufPos : b.bufPos < s.bufferSize
  aligned : 8 ∣ b.file.length

theorem openFile_sound (garbage : ℕ → Byte) : s.Sound (.openFile [] garbage) :=
  ⟨rfl, s.bufferSize_pos, dvd_zero 8⟩

variable {s} {b : AlignedBuffer}

theorem Sound.close_eq (h : s.Sound b) : b.close = b.contents := by
  unfold AlignedBuffer.close AlignedBuffer.contents
  split_ifs with hpos
  · rw [hpos, slice_zero, List.append_nil]
  · rw [h.fileOffset, pwrite_length]

/-- A full buffer is flushed: nothing is lost, and there is room again. -/
theorem flush_spec (hoffset : b.fileOffset = b.file.length) (haligned : 8 ∣ b.file.length)
    (hfull : b.bufPos = s.bufferSize) :
    (s.flush b).contents = b.contents ∧ s.Sound (s.flush b) := by
  have hfile : (s.flush b).file = b.file ++ slice b.buffer 0 s.bufferSize := by
    rw [flush, hoffset, pwrite_length]
  refine ⟨?_, ?_, s.bufferSize_pos, ?_⟩
  · rw [AlignedBuffer.contents, AlignedBuffer.contents, hfile, hfull]
    exact List.append_nil _
  · rw [hfile, List.length_append, length_slice, ← hoffset]
    rfl
  · rw [hfile, List.length_append, length_slice]
    exact Nat.dvd_add haligned s.dvd_bufferSize

theorem writeDirect_spec (h : s.Sound b) (data : ℕ → Byte) (written : ℕ) {count : ℕ}
    (hpos : 0 < count → b.bufPos = 0) (halign : 8 ∣ count) :
    let b' := b.writeDirect data written count
    b'.contents = b.contents ++ slice data written count ∧ s.Sound b' ∧ b'.bufPos = b.bufPos := by
  unfold AlignedBuffer.writeDirect
  split_ifs with hcount
  · subst hcount
    simp [h]
  · have hpos := hpos (Nat.pos_of_ne_zero hcount)
    refine ⟨?_, ⟨?_, h.bufPos, ?_⟩, rfl⟩
    · rw [AlignedBuffer.contents, AlignedBuffer.contents, h.fileOffset, pwrite_length, hpos,
        slice_zero]
      simp
    · rw [h.fileOffset, pwrite_length, List.length_append, length_slice]
    · rw [h.fileOffset, pwrite_length, List.length_append, length_slice]
      exact Nat.dvd_add h.aligned halign

theorem writeBuffered_spec (h : s.Sound b) (data : ℕ → Byte) (written count : ℕ)
    (hcount : b.bufPos + count ≤ s.bufferSize) :
    let b' := s.writeBuffered b data written count
    b'.contents = b.contents ++ slice data written count ∧ s.Sound b' := by
  have hcontents : (⟨b.file, b.fileOffset, copyRange data written count b.bufPos b.buffer,
      b.bufPos + count⟩ : AlignedBuffer).contents = b.contents ++ slice data written count := by
    rw [AlignedBuffer.contents, AlignedBuffer.contents, slice_copyRange, List.append_assoc]
  unfold writeBuffered
  dsimp only
  split_ifs with hfull
  · obtain ⟨hflush, hsound⟩ := flush_spec (s := s) (b := ⟨b.file, b.fileOffset,
      copyRange data written count b.bufPos b.buffer, b.bufPos + count⟩) h.fileOffset h.aligned
      hfull
    exact ⟨hflush.trans hcontents, hsound⟩
  · exact ⟨hcontents, h.fileOffset, lt_of_le_of_ne hcount hfull, h.aligned⟩

theorem directSize_le (b : AlignedBuffer) (remaining : ℕ) :
    s.directSize b remaining ≤ remaining := by
  unfold directSize
  split_ifs
  · exact Nat.div_mul_le_self _ _
  · exact Nat.zero_le _

theorem bufPos_of_directSize (b : AlignedBuffer) (remaining : ℕ)
    (h : 0 < s.directSize b remaining) : b.bufPos = 0 := by
  unfold directSize at h
  split_ifs at h with hdirect
  · exact hdirect.2
  · exact absurd h (lt_irrefl 0)

theorem dvd_directSize (b : AlignedBuffer) (remaining : ℕ) : 8 ∣ s.directSize b remaining := by
  unfold directSize
  split_ifs
  · exact Dvd.dvd.mul_left s.dvd_alignment _
  · exact dvd_zero 8

/-- The loop writes what is left, when it is given a turn for every byte. -/
theorem writeLoop_spec (data : ℕ → Byte) (size : ℕ) {fuel written : ℕ} (h : s.Sound b)
    (hwritten : written ≤ size) (hfuel : size - written ≤ fuel) :
    let result := s.writeLoop data size fuel b written
    result.2 = size ∧ s.Sound result.1 ∧
      result.1.contents = b.contents ++ slice data written (size - written) := by
  induction fuel generalizing b written with
  | zero =>
    obtain rfl : written = size := by omega
    exact ⟨rfl, h, by simp [writeLoop]⟩
  | succ fuel ih =>
    unfold writeLoop
    split_ifs with hlt
    · dsimp only
      have hle := s.directSize_le b (size - written)
      obtain ⟨hcontents, hsound, hpos⟩ := writeDirect_spec h data written
        (s.bufPos_of_directSize b (size - written)) (s.dvd_directSize b (size - written))
      generalize s.directSize b (size - written) = direct at *
      generalize b.writeDirect data written direct = b₁ at *
      have hroom := hsound.bufPos
      generalize htoWrite : min (size - (written + direct)) (s.bufferSize - b₁.bufPos) = toWrite
      obtain ⟨hcontents', hsound'⟩ :=
        writeBuffered_spec hsound data (written + direct) toWrite (by omega)
      -- a turn writes at least one byte: the buffer is never full at its beginning
      have hprogress : written < written + direct + toWrite := by omega
      have hbound : written + direct + toWrite ≤ size := by omega
      obtain ⟨hsize, hsound'', hcontents''⟩ := ih hsound' hbound (by omega)
      refine ⟨hsize, hsound'', ?_⟩
      have hsplit : size - written =
          direct + (toWrite + (size - (written + direct + toWrite))) := by
        omega
      rw [hcontents'', hcontents', hcontents, hsplit, slice_add, slice_add]
      simp only [List.append_assoc]
    · obtain rfl : written = size := by omega
      exact ⟨rfl, h, by simp⟩

/-- **`writeData`** appends all of the data. -/
theorem writeData_spec (h : s.Sound b) (data : ℕ → Byte) (size : ℕ) :
    let result := s.writeData b data size
    result.2 = size ∧ s.Sound result.1 ∧ result.1.contents = b.contents ++ slice data 0 size :=
  writeLoop_spec data size h (Nat.zero_le size) (by omega)

/-- The loop looks at no byte from `size` on. -/
theorem writeLoop_congr {data data' : ℕ → Byte} {size : ℕ} (h : ∀ i < size, data i = data' i)
    (fuel : ℕ) (b : AlignedBuffer) (written : ℕ) :
    s.writeLoop data size fuel b written = s.writeLoop data' size fuel b written := by
  have hdirect : ∀ (b : AlignedBuffer) {written count : ℕ}, written + count ≤ size →
      b.writeDirect data written count = b.writeDirect data' written count := by
    intro b written count hle
    have hslice : slice data written count = slice data' written count :=
      slice_congr fun i hi => h _ (by omega)
    rw [AlignedBuffer.writeDirect, AlignedBuffer.writeDirect, hslice]
  have hbuffered : ∀ (b : AlignedBuffer) {written count : ℕ}, written + count ≤ size →
      s.writeBuffered b data written count = s.writeBuffered b data' written count := by
    intro b written count hle
    have hcopied : copyRange data written count b.bufPos b.buffer =
        copyRange data' written count b.bufPos b.buffer :=
      copyRange_congr fun i hi => h _ (by omega)
    rw [writeBuffered, writeBuffered, hcopied]
  induction fuel generalizing b written with
  | zero => rfl
  | succ fuel ih =>
    unfold writeLoop
    split_ifs with hlt
    · have hle := s.directSize_le b (size - written)
      dsimp only
      rw [hdirect b (by omega), hbuffered _ (by omega), ih]
    · rfl

theorem writeData_congr (b : AlignedBuffer) {data data' : ℕ → Byte} {size : ℕ}
    (h : ∀ i < size, data i = data' i) : s.writeData b data size = s.writeData b data' size :=
  writeLoop_congr h size b 0

/-- **`writePadding`** fills a word up with what happens to be in the buffer: file and buffer hold
whole words, so a word that has been begun has room in the buffer. -/
theorem writePadding_spec (h : s.Sound b) {padding : ℕ} (hlt : padding < 8)
    (haligned : 8 ∣ b.contents.length + padding) :
    let result := s.writePadding b padding
    result.2.1 = padding ∧ result.2.2 = [] ∧ s.Sound result.1 ∧
      result.1.contents = b.contents ++ slice b.buffer b.bufPos padding := by
  have hfits : b.bufPos + padding ≤ s.bufferSize := by
    have hroom := h.bufPos
    have hfile := h.aligned
    have hbuffer := s.dvd_bufferSize
    rw [AlignedBuffer.contents, List.length_append, length_slice] at haligned
    omega
  have hcontents : (⟨b.file, b.fileOffset, b.buffer, b.bufPos + padding⟩ : AlignedBuffer).contents =
      b.contents ++ slice b.buffer b.bufPos padding := by
    rw [AlignedBuffer.contents, AlignedBuffer.contents, slice_add, Nat.zero_add, List.append_assoc]
  unfold writePadding
  rw [if_neg (by omega)]
  dsimp only
  rw [if_neg (by omega)]
  split_ifs with hfull
  · obtain ⟨hflush, hsound⟩ := flush_spec (s := s)
      (b := ⟨b.file, b.fileOffset, b.buffer, b.bufPos + padding⟩) h.fileOffset h.aligned hfull
    exact ⟨rfl, rfl, hsound, hflush.trans hcontents⟩
  · exact ⟨rfl, rfl, ⟨h.fileOffset, lt_of_le_of_ne hfits hfull, h.aligned⟩, hcontents⟩

end BufferSizes

/-! ## A record and its padding -/

/-- The bytes that fill a record up to whole words. -/
def padding (size : ℕ) : ℕ := if size % 8 ≠ 0 then 8 - size % 8 else 0

theorem padding_lt (size : ℕ) : padding size < 8 := by
  unfold padding
  split_ifs
  · omega
  · omega

theorem dvd_padded (size : ℕ) : 8 ∣ size + padding size := by
  unfold padding
  split_ifs
  · omega
  · omega

namespace BufferSizes

/-- The data of a record, and its padding if it needs any. -/
def writePadded (s : BufferSizes) (b : AlignedBuffer) (data : ℕ → Byte) (size : ℕ) :
    AlignedBuffer × ℕ × List String :=
  let (b, written) := s.writeData b data size
  if padding size = 0 then (b, written, [])
  else
    let (b, padded, printed) := s.writePadding b (padding size)
    (b, written + padded, printed)

theorem writePadded_congr {s : BufferSizes} (b : AlignedBuffer) {data data' : ℕ → Byte}
    {size : ℕ} (h : ∀ i < size, data i = data' i) :
    s.writePadded b data size = s.writePadded b data' size := by
  rw [writePadded, writePadded, writeData_congr b h]

theorem writePadded_spec {s : BufferSizes} {b : AlignedBuffer} (h : s.Sound b)
    (haligned : 8 ∣ b.contents.length) (data : ℕ → Byte) (size : ℕ) :
    let result := s.writePadded b data size
    result.2.1 = size + padding size ∧ result.2.2 = [] ∧ s.Sound result.1 ∧
      ∃ pad, pad.length = padding size ∧
        result.1.contents = b.contents ++ (slice data 0 size ++ pad) := by
  obtain ⟨hwritten, hsound₁, hcontents₁⟩ := writeData_spec h data size
  unfold writePadded
  generalize s.writeData b data size = written₁ at *
  obtain ⟨b₁, n⟩ := written₁
  dsimp only at *
  subst hwritten
  split_ifs with hzero
  · exact ⟨by rw [hzero, Nat.add_zero], rfl, hsound₁, [], hzero.symm,
      by rw [hcontents₁, List.append_nil]⟩
  · have haligned₁ : 8 ∣ b₁.contents.length + padding n := by
      rw [hcontents₁, List.length_append, length_slice, Nat.add_assoc]
      exact Nat.dvd_add haligned (dvd_padded n)
    obtain ⟨hpadded, hprinted, hsound₂, hcontents₂⟩ :=
      writePadding_spec hsound₁ (padding_lt n) haligned₁
    refine ⟨by rw [hpadded], hprinted, hsound₂, slice b₁.buffer b₁.bufPos (padding n),
      length_slice _ _ _, ?_⟩
    rw [hcontents₂, hcontents₁, List.append_assoc]

end BufferSizes

end Store
end SpotServe
