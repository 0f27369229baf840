import SpotServe.Store.DeviceLayout
import SpotServe.Store.TensorWriter

/-!
# From the partition files to the devices

`Model` (`csrc/sllm_store/model.cpp`) loads a checkpoint in two stages.  `ToHost` reads the partition
files into pinned memory, in chunks of one size and with several threads, each of which goes through
its own run of chunks.  `DispatchToGpu` cuts the copy chunks of each device at the borders of the
host chunks and copies the pieces in the order of the host chunks.

* `toHost_of_readable`: the host chunks are the chunks of the concatenated files, provided that no
  read has to go beyond the partition after the one it starts in (`HostReadable`); otherwise the
  load fails.
* `toGpu_eq`: cutting and reordering change nothing about what is copied.
-/

namespace SpotServe
namespace Store

open Py Packing

/-- The configuration of the store: `chunk_size` and `num_thread`. -/
structure StoreConfig where
  chunkSize : ℕ
  numThreads : ℕ
  chunkSize_pos : 0 < chunkSize
  numThreads_pos : 0 < numThreads

/-! ## `Model::ToHost` -/

/-- `pread`, which transfers all bytes there are. -/
def pread (file : List Byte) (count offset : ℕ) : List Byte := (file.drop offset).take count

/-- Where a thread reads: the current file with those after it, and the offset in it. -/
abbrev Position := List (List Byte) × ℕ

/-- The loop that skips the files before the first chunk of a thread. -/
def seek : List (List Byte) → ℕ → Position
  | [], offset => ([], offset)
  | file :: rest, offset =>
    if file.length ≤ offset then seek rest (offset - file.length) else (file :: rest, offset)

/-- One chunk: what the current file does not have comes from the next one. -/
def readChunk (position : Position) (size : ℕ) : Option (List Byte × Position) :=
  match position with
  | ([], _) => none
  | (file :: rest, offset) =>
    let head := pread file size offset
    if head.length = size then some (head, (file :: rest, offset + size))
    else
      match rest with
      | [] => none
      | next :: rest =>
        let tail := pread next (size - head.length) 0
        if tail.length = size - head.length then some (head ++ tail, (next :: rest, tail.length))
        else none

/-- The chunks of a thread from `chunk` on, with their numbers. -/
def readChunks (cfg : StoreConfig) (modelSize : ℕ) :
    ℕ → ℕ → Position → Option (List (ℕ × List Byte))
  | 0, _, _ => some []
  | count + 1, chunk, position => do
    let size := min cfg.chunkSize (modelSize - chunk * cfg.chunkSize)
    let (bytes, position) ← readChunk position size
    let rest ← readChunks cfg modelSize count (chunk + 1) position
    some ((chunk, bytes) :: rest)

/-- `num_chunks` of the pinned memory for a model. -/
def StoreConfig.numChunks (cfg : StoreConfig) (modelSize : ℕ) : ℕ :=
  (modelSize + cfg.chunkSize - 1) / cfg.chunkSize

/-- `chunk_per_thread` -/
def StoreConfig.chunkPerThread (cfg : StoreConfig) (modelSize : ℕ) : ℕ :=
  (cfg.numChunks modelSize + cfg.numThreads - 1) / cfg.numThreads

/-- The body of a thread; one with nothing left to read exits early. -/
def readThread (cfg : StoreConfig) (files : List (List Byte)) (thread : ℕ) :
    Option (List (ℕ × List Byte)) :=
  let modelSize := files.flatten.length
  let perThread := cfg.chunkPerThread modelSize
  let first := thread * perThread
  match seek files (first * cfg.chunkSize) with
  | ([], _) => some []
  | position =>
    readChunks cfg modelSize (min (first + perThread) (cfg.numChunks modelSize) - first) first
      position

/-- The threads one after the other: they fill different chunks. -/
def readThreads (cfg : StoreConfig) (files : List (List Byte)) :
    List ℕ → Option (List (ℕ × List Byte))
  | [] => some []
  | thread :: threads => do
    let chunks ← readThread cfg files thread
    let rest ← readThreads cfg files threads
    some (chunks ++ rest)

/-- `Model::Initialize` and `Model::ToHost`: an empty model does not exist, and one thread that
fails fails the load. -/
def toHost (cfg : StoreConfig) (files : List (List Byte)) : Option (List (ℕ × List Byte)) :=
  if files.flatten.length = 0 then none else readThreads cfg files (List.range cfg.numThreads)

/-- The pinned memory: what was read into a chunk, and what it held before. -/
def hostBuffer (stale : ℕ → ℕ → Byte) (loaded : List (ℕ × List Byte)) (chunk i : ℕ) : Byte :=
  ((loaded.lookup chunk).bind fun bytes => bytes[i]?).getD (stale chunk i)

/-! ### Positions in the concatenated files -/

/-- How far a read reaches that starts in the partition of byte `b`: to the end of the partition
after it. -/
def reach : List ℕ → ℕ → ℕ
  | [], _ => 0
  | size :: sizes, b => if b < size then size + sizes.headD 0 else size + reach sizes (b - size)

theorem reach_append {sizes : List ℕ} {size b : ℕ} (rest : List ℕ) (hlo : sizes.sum ≤ b)
    (hhi : b < sizes.sum + size) :
    reach (sizes ++ size :: rest) b = sizes.sum + size + rest.headD 0 := by
  induction sizes generalizing b with
  | nil =>
    rw [List.sum_nil, Nat.zero_add] at hhi
    rw [List.nil_append, reach, if_pos hhi]
    simp
  | cons s sizes ih =>
    rw [List.sum_cons] at hlo hhi
    rw [List.cons_append, reach, if_neg (by omega), ih (by omega) (by omega), List.sum_cons]
    omega

/-- `position` is where byte `b` of the files is read, in the file that holds byte `x`. -/
def Located (files : List (List Byte)) (x b : ℕ) (position : Position) : Prop :=
  ∃ before file rest, files = before ++ file :: rest ∧
    position = (file :: rest, b - before.flatten.length) ∧
    before.flatten.length ≤ b ∧ b ≤ before.flatten.length + file.length ∧
    before.flatten.length ≤ x ∧ x < before.flatten.length + file.length

theorem sum_map_length (files : List (List Byte)) :
    (files.map List.length).sum = files.flatten.length := by
  rw [List.length_flatten]

theorem seek_located {files : List (List Byte)} {b : ℕ} (hb : b < files.flatten.length) :
    Located files b b (seek files b) := by
  suffices h : ∀ before rest b', files = before ++ rest → b = before.flatten.length + b' →
      Located files b b (seek rest b') from h [] files b rfl (by simp)
  intro before rest
  induction rest generalizing before with
  | nil =>
    intro b' hfiles hb'
    rw [hfiles, List.append_nil] at hb
    omega
  | cons file rest ih =>
    intro b' hfiles hb'
    unfold seek
    split_ifs with hle
    · refine ih (before ++ [file]) (b' - file.length) (by simp [hfiles]) ?_
      rw [List.flatten_append, List.flatten_singleton, List.length_append]
      omega
    · refine ⟨before, file, rest, hfiles, ?_, by omega, by omega, by omega, by omega⟩
      rw [hb', Nat.add_sub_cancel_left]

theorem seek_end {files : List (List Byte)} {b : ℕ} (hb : files.flatten.length ≤ b) :
    (seek files b).1 = [] := by
  induction files generalizing b with
  | nil => rfl
  | cons file rest ih =>
    rw [List.flatten_cons, List.length_append] at hb
    rw [seek, if_pos (by omega)]
    exact ih (by omega)

theorem drop_flatten {before : List (List Byte)} {file : List Byte} (rest : List (List Byte))
    {b : ℕ} (hlo : before.flatten.length ≤ b) (hhi : b ≤ before.flatten.length + file.length) :
    (before ++ file :: rest).flatten.drop b =
      file.drop (b - before.flatten.length) ++ rest.flatten := by
  rw [List.flatten_append, List.flatten_cons, List.drop_append, List.drop_eq_nil_of_le hlo,
    List.nil_append, List.drop_append_of_le_length (by omega)]

theorem reach_located {before : List (List Byte)} {file : List Byte} (rest : List (List Byte))
    {x : ℕ} (hlo : before.flatten.length ≤ x) (hhi : x < before.flatten.length + file.length) :
    reach ((before ++ file :: rest).map List.length) x =
      before.flatten.length + file.length + (rest.map List.length).headD 0 := by
  rw [List.map_append, List.map_cons, reach_append _ (by rw [sum_map_length]; exact hlo)
    (by rw [sum_map_length]; exact hhi), sum_map_length]

/-- A chunk that the current file has. -/
theorem readChunk_inside {file : List Byte} (rest : List (List Byte)) {offset size : ℕ}
    (hfits : offset + size ≤ file.length) :
    readChunk (file :: rest, offset) size =
      some ((file.drop offset).take size, (file :: rest, offset + size)) := by
  unfold readChunk
  dsimp only
  rw [if_pos (by rw [pread, List.length_take, List.length_drop]; omega)]
  rfl

/-- A chunk of which the current file has only a part. -/
theorem readChunk_across {file : List Byte} (next : List Byte) (rest : List (List Byte))
    {offset size : ℕ} (hlo : offset ≤ file.length) (hhi : file.length < offset + size) :
    readChunk (file :: next :: rest, offset) size =
      if offset + size ≤ file.length + next.length then
        some (file.drop offset ++ next.take (offset + size - file.length),
          (next :: rest, offset + size - file.length))
      else none := by
  have hhead : pread file size offset = file.drop offset :=
    List.take_of_length_le (by rw [List.length_drop]; omega)
  have hleft : size - (file.drop offset).length = offset + size - file.length := by
    rw [List.length_drop]
    omega
  unfold readChunk
  dsimp only
  rw [hhead, if_neg (by rw [List.length_drop]; omega), hleft, pread, List.drop_zero,
    List.length_take]
  split_ifs with hmin hle hle
  · rw [hmin]
  · omega
  · omega
  · rfl

theorem readChunk_last {file : List Byte} {offset size : ℕ} (hlo : offset ≤ file.length)
    (hhi : file.length < offset + size) : readChunk ([file], offset) size = none := by
  unfold readChunk
  dsimp only
  rw [if_neg (by rw [pread, List.length_take, List.length_drop]; omega)]

/-- A chunk that ends within reach is read, and the position moves behind it. -/
theorem readChunk_of_le {files : List (List Byte)} {x b size : ℕ} {position : Position}
    (h : Located files x b position) (hsize : 0 < size)
    (hreach : b + size ≤ reach (files.map List.length) x) :
    ∃ position', readChunk position size = some ((files.flatten.drop b).take size, position') ∧
      Located files (b + size - 1) (b + size) position' := by
  obtain ⟨before, file, rest, rfl, rfl, hlo, hhi, hxlo, hxhi⟩ := h
  rw [reach_located rest hxlo hxhi] at hreach
  rw [drop_flatten rest hlo hhi]
  obtain ⟨offset, rfl⟩ := Nat.exists_eq_add_of_le hlo
  rw [Nat.add_sub_cancel_left]
  by_cases hfits : offset + size ≤ file.length
  · rw [readChunk_inside rest hfits,
      List.take_append_of_le_length (by rw [List.length_drop]; omega)]
    refine ⟨_, rfl, before, file, rest, rfl, ?_, by omega, by omega, by omega, by omega⟩
    rw [Nat.add_assoc, Nat.add_sub_cancel_left]
  · cases rest with
    | nil =>
      rw [List.map_nil, List.headD_nil] at hreach
      omega
    | cons next rest =>
      rw [List.map_cons, List.headD_cons] at hreach
      have hbefore : (before ++ [file]).flatten.length = before.flatten.length + file.length := by
        rw [List.flatten_append, List.flatten_singleton, List.length_append]
      rw [readChunk_across next rest (by omega) (by omega), if_pos (by omega)]
      refine ⟨_, ?_, before ++ [file], next, rest, by simp, rfl, by omega, by omega, by omega,
        by omega⟩
      have htake : (file.drop offset ++ (next :: rest).flatten).take size =
          file.drop offset ++ next.take (offset + size - file.length) := by
        rw [List.take_append, List.take_of_length_le (by rw [List.length_drop]; omega),
          List.length_drop, List.flatten_cons, List.take_append_of_le_length (by omega)]
        congr 2
        omega
      rw [htake, hbefore]
      congr 3
      omega

/-- A chunk that ends beyond reach is not read. -/
theorem readChunk_of_lt {files : List (List Byte)} {x b size : ℕ} {position : Position}
    (h : Located files x b position)
    (hreach : reach (files.map List.length) x < b + size) : readChunk position size = none := by
  obtain ⟨before, file, rest, rfl, rfl, hlo, hhi, hxlo, hxhi⟩ := h
  rw [reach_located rest hxlo hxhi] at hreach
  obtain ⟨offset, rfl⟩ := Nat.exists_eq_add_of_le hlo
  rw [Nat.add_sub_cancel_left]
  cases rest with
  | nil => exact readChunk_last (by omega) (by omega)
  | cons next rest =>
    rw [List.map_cons, List.headD_cons] at hreach
    rw [readChunk_across next rest (by omega) (by omega), if_neg (by omega)]

/-! ### The chunks of a thread -/

section Threads

variable (cfg : StoreConfig)

theorem StoreConfig.lt_numChunks_iff (modelSize chunk : ℕ) :
    chunk < cfg.numChunks modelSize ↔ chunk * cfg.chunkSize < modelSize := by
  have hpos := cfg.chunkSize_pos
  rw [StoreConfig.numChunks, Nat.lt_iff_add_one_le, Nat.le_div_iff_mul_le hpos, Nat.add_mul]
  omega

/-- Where a chunk ends. -/
def StoreConfig.chunkEnd (modelSize chunk : ℕ) : ℕ :=
  min ((chunk + 1) * cfg.chunkSize) modelSize

theorem StoreConfig.chunk_add_size {modelSize chunk : ℕ}
    (h : chunk * cfg.chunkSize < modelSize) :
    chunk * cfg.chunkSize + min cfg.chunkSize (modelSize - chunk * cfg.chunkSize) =
      cfg.chunkEnd modelSize chunk := by
  rw [StoreConfig.chunkEnd, Nat.add_mul]
  omega

/-- The byte in whose partition the read of a chunk starts: the first one of the chunk at the
beginning of a thread, later the last one of the chunk before. -/
def StoreConfig.readFrom (modelSize chunk : ℕ) : ℕ :=
  if cfg.chunkPerThread modelSize ∣ chunk then chunk * cfg.chunkSize
  else chunk * cfg.chunkSize - 1

/-- No chunk ends beyond the partition after the one where its read starts. -/
def HostReadable (sizes : List ℕ) : Prop :=
  ∀ chunk < cfg.numChunks sizes.sum,
    cfg.chunkEnd sizes.sum chunk ≤ reach sizes (cfg.readFrom sizes.sum chunk)

instance (sizes : List ℕ) : Decidable (HostReadable cfg sizes) :=
  inferInstanceAs (Decidable (∀ chunk < _, _))

/-- The bytes of a chunk. -/
def imageChunk (image : List Byte) (chunk : ℕ) : List Byte :=
  (image.drop (chunk * cfg.chunkSize)).take
    (min cfg.chunkSize (image.length - chunk * cfg.chunkSize))

theorem readChunks_succ (modelSize count chunk : ℕ) (position : Position) :
    readChunks cfg modelSize (count + 1) chunk position =
      (readChunk position (min cfg.chunkSize (modelSize - chunk * cfg.chunkSize))).bind fun read =>
        (readChunks cfg modelSize count (chunk + 1) read.2).map ((chunk, read.1) :: ·) := by
  rw [readChunks]
  cases readChunk position (min cfg.chunkSize (modelSize - chunk * cfg.chunkSize)) with
  | none => rfl
  | some read =>
    cases hrest : readChunks cfg modelSize count (chunk + 1) read.2 with
    | none => simp [hrest]
    | some rest => simp [hrest]

variable {cfg} {files : List (List Byte)}

/-- The next chunk is read from the file that holds the last byte of the one before. -/
theorem located_next {chunk : ℕ} {position : Position}
    (hnext : chunk + 1 < cfg.numChunks files.flatten.length)
    (hthread : ¬ cfg.chunkPerThread files.flatten.length ∣ chunk + 1)
    (h : Located files
      (chunk * cfg.chunkSize + min cfg.chunkSize (files.flatten.length - chunk * cfg.chunkSize) - 1)
      (chunk * cfg.chunkSize + min cfg.chunkSize (files.flatten.length - chunk * cfg.chunkSize))
      position) :
    Located files (cfg.readFrom files.flatten.length (chunk + 1)) ((chunk + 1) * cfg.chunkSize)
      position := by
  rw [cfg.lt_numChunks_iff, Nat.add_mul] at hnext
  have hsize : chunk * cfg.chunkSize +
      min cfg.chunkSize (files.flatten.length - chunk * cfg.chunkSize) =
        (chunk + 1) * cfg.chunkSize := by
    rw [Nat.add_mul]
    omega
  rw [hsize] at h
  rw [StoreConfig.readFrom, if_neg hthread]
  exact h

/-- The first chunk of a run that is within reach, and the run after it. -/
theorem readChunks_first {count chunk : ℕ} {position : Position}
    (h : Located files (cfg.readFrom files.flatten.length chunk) (chunk * cfg.chunkSize) position)
    (hcount : chunk + (count + 1) ≤ cfg.numChunks files.flatten.length)
    (hthread : 0 < count → ¬ cfg.chunkPerThread files.flatten.length ∣ chunk + 1)
    (hreach : cfg.chunkEnd files.flatten.length chunk ≤
      reach (files.map List.length) (cfg.readFrom files.flatten.length chunk)) :
    ∃ position', (0 < count → Located files (cfg.readFrom files.flatten.length (chunk + 1))
        ((chunk + 1) * cfg.chunkSize) position') ∧
      readChunks cfg files.flatten.length (count + 1) chunk position =
        (readChunks cfg files.flatten.length count (chunk + 1) position').map
          ((chunk, imageChunk cfg files.flatten chunk) :: ·) := by
  have hlt : chunk * cfg.chunkSize < files.flatten.length :=
    (cfg.lt_numChunks_iff _ _).mp (by omega)
  have hpos := cfg.chunkSize_pos
  rw [← cfg.chunk_add_size hlt] at hreach
  obtain ⟨position', hread, hposition'⟩ := readChunk_of_le h (by omega) hreach
  refine ⟨position', fun hcount' => located_next (by omega) (hthread hcount') hposition', ?_⟩
  rw [readChunks_succ, hread, Option.bind_some]
  rfl

/-- A run of chunks of one thread, when all are within reach. -/
theorem readChunks_of_le {count chunk : ℕ} {position : Position}
    (h : 0 < count →
      Located files (cfg.readFrom files.flatten.length chunk) (chunk * cfg.chunkSize) position)
    (hcount : chunk + count ≤ cfg.numChunks files.flatten.length)
    (hthread : ∀ j < count, 0 < j → ¬ cfg.chunkPerThread files.flatten.length ∣ chunk + j)
    (hreach : ∀ j < count, cfg.chunkEnd files.flatten.length (chunk + j) ≤
      reach (files.map List.length) (cfg.readFrom files.flatten.length (chunk + j))) :
    readChunks cfg files.flatten.length count chunk position =
      some ((List.range count).map fun j =>
        (chunk + j, imageChunk cfg files.flatten (chunk + j))) := by
  induction count generalizing chunk position with
  | zero => rfl
  | succ count ih =>
    obtain ⟨position', hposition', hread⟩ := readChunks_first (h (by omega)) hcount
      (fun hcount' => hthread 1 (by omega) (by omega)) (hreach 0 (by omega))
    have hshift : ∀ j, chunk + 1 + j = chunk + (j + 1) := fun j => by omega
    have hrest := ih hposition' (by omega)
      (fun j hj hj0 => by rw [hshift]; exact hthread (j + 1) (by omega) (by omega))
      (fun j hj => by rw [hshift]; exact hreach (j + 1) (by omega))
    rw [hread, hrest, Option.map_some, List.range_succ_eq_map, List.map_cons, List.map_map]
    simp only [hshift]
    rfl

/-- One chunk beyond reach fails the thread. -/
theorem readChunks_of_lt {count chunk : ℕ} {position : Position}
    (h : 0 < count →
      Located files (cfg.readFrom files.flatten.length chunk) (chunk * cfg.chunkSize) position)
    (hcount : chunk + count ≤ cfg.numChunks files.flatten.length)
    (hthread : ∀ j < count, 0 < j → ¬ cfg.chunkPerThread files.flatten.length ∣ chunk + j)
    {j : ℕ} (hj : j < count)
    (hreach : reach (files.map List.length) (cfg.readFrom files.flatten.length (chunk + j)) <
      cfg.chunkEnd files.flatten.length (chunk + j)) :
    readChunks cfg files.flatten.length count chunk position = none := by
  induction count generalizing chunk position j with
  | zero => exact absurd hj (Nat.not_lt_zero j)
  | succ count ih =>
    by_cases hfirst : cfg.chunkEnd files.flatten.length chunk ≤
        reach (files.map List.length) (cfg.readFrom files.flatten.length chunk)
    · obtain ⟨position', hposition', hread⟩ := readChunks_first (h (by omega)) hcount
        (fun hcount' => hthread 1 (by omega) (by omega)) hfirst
      have hj0 : j ≠ 0 := by
        rintro rfl
        exact absurd hreach (not_lt.mpr hfirst)
      obtain ⟨i, rfl⟩ := Nat.exists_eq_succ_of_ne_zero hj0
      have hshift : ∀ j, chunk + 1 + j = chunk + (j + 1) := fun j => by omega
      rw [hread, ih hposition' (by omega)
        (fun j hj hj0 => by rw [hshift]; exact hthread (j + 1) (by omega) (by omega))
        (Nat.lt_of_succ_lt_succ hj) (by rw [hshift]; exact hreach), Option.map_none]
    · have hlt : chunk * cfg.chunkSize < files.flatten.length :=
        (cfg.lt_numChunks_iff _ _).mp (by omega)
      rw [readChunks_succ, readChunk_of_lt (h (by omega)) (by rw [cfg.chunk_add_size hlt]; omega),
        Option.bind_none]

variable (cfg files)

/-- The number of chunks of a thread. -/
def threadCount (thread : ℕ) : ℕ :=
  min (thread * cfg.chunkPerThread files.flatten.length + cfg.chunkPerThread files.flatten.length)
    (cfg.numChunks files.flatten.length) - thread * cfg.chunkPerThread files.flatten.length

/-- The chunks of a thread, as it reads them. -/
def threadChunks (thread : ℕ) : List (ℕ × List Byte) :=
  (List.range (threadCount cfg files thread)).map fun j =>
    (thread * cfg.chunkPerThread files.flatten.length + j,
      imageChunk cfg files.flatten (thread * cfg.chunkPerThread files.flatten.length + j))

/-- A thread is a run of chunks that starts at its own first byte. -/
theorem readThread_eq (thread : ℕ) : ∃ position,
    readThread cfg files thread = readChunks cfg files.flatten.length (threadCount cfg files thread)
      (thread * cfg.chunkPerThread files.flatten.length) position ∧
    (0 < threadCount cfg files thread → Located files
      (cfg.readFrom files.flatten.length (thread * cfg.chunkPerThread files.flatten.length))
      (thread * cfg.chunkPerThread files.flatten.length * cfg.chunkSize) position) := by
  by_cases hlt : thread * cfg.chunkPerThread files.flatten.length * cfg.chunkSize <
      files.flatten.length
  · have hlocated := seek_located hlt
    refine ⟨seek files (thread * cfg.chunkPerThread files.flatten.length * cfg.chunkSize), ?_, ?_⟩
    · obtain ⟨before, file, rest, -, hseek, -⟩ := hlocated
      unfold readThread
      dsimp only
      rw [hseek]
      rfl
    · intro _
      rw [StoreConfig.readFrom, if_pos (Nat.dvd_mul_left _ _)]
      exact hlocated
  · have hnone : cfg.numChunks files.flatten.length ≤
        thread * cfg.chunkPerThread files.flatten.length :=
      not_lt.mp fun h => hlt ((cfg.lt_numChunks_iff _ _).mp h)
    have hcount : threadCount cfg files thread = 0 := by
      unfold threadCount
      omega
    refine ⟨([], 0), ?_, fun h => absurd h (by omega)⟩
    have hseek := seek_end (not_lt.mp hlt)
    unfold readThread
    dsimp only
    rw [hcount]
    generalize seek files (thread * cfg.chunkPerThread files.flatten.length * cfg.chunkSize) =
      position at hseek
    obtain ⟨rest, offset⟩ := position
    obtain rfl : rest = [] := hseek
    rfl

variable {cfg files}

theorem threadCount_le (thread : ℕ) :
    0 < threadCount cfg files thread → thread * cfg.chunkPerThread files.flatten.length +
      threadCount cfg files thread ≤ cfg.numChunks files.flatten.length := by
  unfold threadCount
  omega

theorem not_dvd_of_lt_threadCount {thread j : ℕ} (hj : j < threadCount cfg files thread)
    (hj0 : 0 < j) : ¬ cfg.chunkPerThread files.flatten.length ∣
      thread * cfg.chunkPerThread files.flatten.length + j := by
  intro hdvd
  rw [Nat.dvd_add_right (Nat.dvd_mul_left _ _)] at hdvd
  have hle := Nat.le_of_dvd hj0 hdvd
  unfold threadCount at hj
  omega

/-- A thread whose chunks are all within reach. -/
theorem readThread_of_le {thread : ℕ} (hreach : ∀ j < threadCount cfg files thread,
    cfg.chunkEnd files.flatten.length (thread * cfg.chunkPerThread files.flatten.length + j) ≤
      reach (files.map List.length) (cfg.readFrom files.flatten.length
        (thread * cfg.chunkPerThread files.flatten.length + j))) :
    readThread cfg files thread = some (threadChunks cfg files thread) := by
  obtain ⟨position, hthread, hposition⟩ := readThread_eq cfg files thread
  rw [hthread]
  rcases Nat.eq_zero_or_pos (threadCount cfg files thread) with hzero | hpos
  · rw [threadChunks, hzero]
    rfl
  · exact readChunks_of_le hposition (threadCount_le thread hpos)
      (fun j hj hj0 => not_dvd_of_lt_threadCount hj hj0) hreach

/-- A thread with a chunk beyond reach. -/
theorem readThread_of_lt {thread j : ℕ} (hj : j < threadCount cfg files thread)
    (hreach : reach (files.map List.length) (cfg.readFrom files.flatten.length
      (thread * cfg.chunkPerThread files.flatten.length + j)) <
        cfg.chunkEnd files.flatten.length (thread * cfg.chunkPerThread files.flatten.length + j)) :
    readThread cfg files thread = none := by
  obtain ⟨position, hthread, hposition⟩ := readThread_eq cfg files thread
  rw [hthread]
  exact readChunks_of_lt hposition (threadCount_le thread (by omega))
    (fun j hj hj0 => not_dvd_of_lt_threadCount hj hj0) hj hreach

theorem readThreads_of_some {threads : List ℕ} {chunks : ℕ → List (ℕ × List Byte)}
    (h : ∀ thread ∈ threads, readThread cfg files thread = some (chunks thread)) :
    readThreads cfg files threads = some (threads.flatMap chunks) := by
  induction threads with
  | nil => rfl
  | cons thread threads ih =>
    rw [readThreads, h thread List.mem_cons_self,
      ih fun t ht => h t (List.mem_cons_of_mem _ ht)]
    rfl

theorem readThreads_of_none {threads : List ℕ} {thread : ℕ} (hmem : thread ∈ threads)
    (h : readThread cfg files thread = none) : readThreads cfg files threads = none := by
  induction threads with
  | nil => exact absurd hmem (by simp)
  | cons thread' threads ih =>
    rw [readThreads]
    rcases List.mem_cons.mp hmem with rfl | hmem
    · rw [h]
      rfl
    · rw [ih hmem]
      cases readThread cfg files thread' with
      | none => rfl
      | some chunks => rfl

/-- The thread that reads a chunk. -/
theorem exists_thread {chunk : ℕ} (hchunk : chunk < cfg.numChunks files.flatten.length) :
    ∃ thread < cfg.numThreads, ∃ j < threadCount cfg files thread,
      chunk = thread * cfg.chunkPerThread files.flatten.length + j := by
  have hthreads := cfg.numThreads_pos
  have hcover : cfg.numChunks files.flatten.length ≤
      cfg.numThreads * cfg.chunkPerThread files.flatten.length := by
    rw [StoreConfig.chunkPerThread]
    have := Nat.div_add_mod (cfg.numChunks files.flatten.length + cfg.numThreads - 1) cfg.numThreads
    have := Nat.mod_lt (cfg.numChunks files.flatten.length + cfg.numThreads - 1) hthreads
    omega
  have hpos : 0 < cfg.chunkPerThread files.flatten.length := by
    by_contra hzero
    rw [Nat.eq_zero_of_not_pos hzero, Nat.mul_zero] at hcover
    omega
  refine ⟨chunk / cfg.chunkPerThread files.flatten.length, ?_,
    chunk % cfg.chunkPerThread files.flatten.length, ?_, (Nat.div_add_mod' _ _).symm⟩
  · exact Nat.div_lt_of_lt_mul (by rw [Nat.mul_comm]; omega)
  · have := Nat.mod_lt chunk hpos
    have := Nat.div_add_mod' chunk (cfg.chunkPerThread files.flatten.length)
    unfold threadCount
    omega

/-- A table in which every entry is right. -/
theorem lookup_of_forall {f : ℕ → List Byte} {table : List (ℕ × List Byte)} {chunk : ℕ}
    (hall : ∀ entry ∈ table, entry.2 = f entry.1) (hmem : ∃ entry ∈ table, entry.1 = chunk) :
    table.lookup chunk = some (f chunk) := by
  induction table with
  | nil =>
    obtain ⟨entry, hentry, -⟩ := hmem
    exact absurd hentry (by simp)
  | cons entry table ih =>
    obtain ⟨c, bytes⟩ := entry
    rw [List.lookup_cons]
    by_cases hc : chunk = c
    · subst hc
      have := hall (chunk, bytes) List.mem_cons_self
      simp only at this
      simp [this]
    · rw [beq_false_of_ne hc]
      refine ih (fun entry hentry => hall entry (List.mem_cons_of_mem _ hentry)) ?_
      obtain ⟨entry, hentry, hentry'⟩ := hmem
      rcases List.mem_cons.mp hentry with rfl | hentry
      · exact absurd hentry'.symm hc
      · exact ⟨entry, hentry, hentry'⟩

/-- **`ToHost`, when it succeeds**: every host chunk holds its chunk of the concatenated files. -/
theorem toHost_of_readable (hsize : files.flatten.length ≠ 0)
    (hreadable : HostReadable cfg (files.map List.length)) :
    ∃ loaded, toHost cfg files = some loaded ∧
      ∀ chunk < cfg.numChunks files.flatten.length,
        loaded.lookup chunk = some (imageChunk cfg files.flatten chunk) := by
  unfold HostReadable at hreadable
  rw [sum_map_length] at hreadable
  have hthread : ∀ thread ∈ List.range cfg.numThreads,
      readThread cfg files thread = some (threadChunks cfg files thread) := by
    intro thread _
    refine readThread_of_le fun j hj => hreadable _ ?_
    have := threadCount_le thread (Nat.zero_lt_of_lt hj)
    omega
  refine ⟨_, by rw [toHost, if_neg hsize]; exact readThreads_of_some hthread, ?_⟩
  intro chunk hchunk
  refine lookup_of_forall ?_ ?_
  · intro entry hentry
    obtain ⟨thread, -, hentry⟩ := List.mem_flatMap.mp hentry
    obtain ⟨j, -, rfl⟩ := List.mem_map.mp hentry
    rfl
  · obtain ⟨thread, hlt, j, hj, rfl⟩ := exists_thread hchunk
    have hmem : (thread * cfg.chunkPerThread files.flatten.length + j, imageChunk cfg files.flatten
        (thread * cfg.chunkPerThread files.flatten.length + j)) ∈ threadChunks cfg files thread :=
      List.mem_map.mpr ⟨j, List.mem_range.mpr hj, rfl⟩
    exact ⟨_, List.mem_flatMap.mpr ⟨thread, List.mem_range.mpr hlt, hmem⟩, rfl⟩

/-- **`ToHost`, when it fails.** -/
theorem toHost_of_not_readable (hreadable : ¬ HostReadable cfg (files.map List.length)) :
    toHost cfg files = none := by
  unfold HostReadable at hreadable
  rw [sum_map_length] at hreadable
  push Not at hreadable
  obtain ⟨chunk, hchunk, hreach⟩ := hreadable
  obtain ⟨thread, hlt, j, hj, rfl⟩ := exists_thread hchunk
  unfold toHost
  split_ifs
  · rfl
  · exact readThreads_of_none (List.mem_range.mpr hlt) (readThread_of_lt hj hreach)

end Threads

/-! ## `Model::DispatchToGpu` -/

/-- A piece of a host chunk and where it goes on the device. -/
structure GpuBatch where
  chunkId : ℕ
  chunkOffset : ℕ
  size : ℕ
  gpuOffset : ℕ
  deriving DecidableEq, Repr

/-- The loop of `MapDataToChunks`; `fuel` bounds its turns. -/
def mapLoop (chunkSize : ℕ) : ℕ → ℕ → ℕ → ℕ → List (ℕ × ℕ × ℕ)
  | 0, _, _, _ => []
  | fuel + 1, chunkId, offset, remaining =>
    if remaining = 0 then []
    else
      let size := min (chunkSize - offset) remaining
      (chunkId, offset, size) :: mapLoop chunkSize fuel (chunkId + 1) 0 (remaining - size)

/-- `Model::MapDataToChunks`: each turn takes at least one byte. -/
def mapDataToChunks (offset size chunkSize : ℕ) : List (ℕ × ℕ × ℕ) :=
  mapLoop chunkSize size (offset / chunkSize) (offset % chunkSize) size

/-- The pieces one after the other on the device: `handle_offsets`. -/
def gpuBatches (gpuOffset : ℕ) : List (ℕ × ℕ × ℕ) → List GpuBatch
  | [] => []
  | (chunkId, chunkOffset, size) :: pieces =>
    ⟨chunkId, chunkOffset, size, gpuOffset⟩ :: gpuBatches (gpuOffset + size) pieces

/-- The pieces of a copy chunk. -/
def batchesOf (cfg : StoreConfig) (chunk : CopyChunk) : List GpuBatch :=
  gpuBatches chunk.deviceOffset (mapDataToChunks chunk.offset chunk.size cfg.chunkSize)

/-- The queue of a device: the pieces of all its copy chunks, in the order of the host chunks. -/
def gpuLoadingQueue (cfg : StoreConfig) (numChunks : ℕ) (chunks : List CopyChunk) :
    List GpuBatch :=
  (List.range numChunks).flatMap fun chunkId =>
    (chunks.flatMap (batchesOf cfg)).filter fun batch => batch.chunkId = chunkId

/-- `Model::ToGpu`: the memory of a device after its queue has been worked off. -/
def toGpu (cfg : StoreConfig) (host : ℕ → ℕ → Byte) (numChunks : ℕ) (chunks : List CopyChunk)
    (memory : ℕ → Byte) : ℕ → Byte :=
  copyEach GpuBatch.chunkOffset GpuBatch.size GpuBatch.gpuOffset (fun batch => host batch.chunkId)
    (gpuLoadingQueue cfg numChunks chunks) memory

section Dispatch

variable {cfg : StoreConfig}

theorem mapLoop_zero (chunkSize fuel chunkId offset : ℕ) :
    mapLoop chunkSize fuel chunkId offset 0 = [] := by
  cases fuel with
  | zero => rfl
  | succ fuel => rfl

/-- What the pieces of a range are to the range: each lies in one host chunk and in the range, at
the same distance from both of its beginnings, and together they leave nothing out. -/
theorem mapLoop_spec (fuel chunkId offset remaining gpuOffset : ℕ)
    (hoffset : offset < cfg.chunkSize) (hfuel : remaining ≤ fuel) :
    (∀ batch ∈ gpuBatches gpuOffset (mapLoop cfg.chunkSize fuel chunkId offset remaining),
      batch.chunkOffset + batch.size ≤ cfg.chunkSize ∧ gpuOffset ≤ batch.gpuOffset ∧
      batch.gpuOffset + batch.size ≤ gpuOffset + remaining ∧
      batch.chunkId * cfg.chunkSize + batch.chunkOffset + gpuOffset =
        chunkId * cfg.chunkSize + offset + batch.gpuOffset) ∧
    ∀ a, gpuOffset ≤ a → a < gpuOffset + remaining →
      ∃ batch ∈ gpuBatches gpuOffset (mapLoop cfg.chunkSize fuel chunkId offset remaining),
        batch.gpuOffset ≤ a ∧ a < batch.gpuOffset + batch.size := by
  induction fuel generalizing chunkId offset remaining gpuOffset with
  | zero =>
    obtain rfl : remaining = 0 := by omega
    refine ⟨fun batch hbatch => absurd hbatch (by simp [mapLoop, gpuBatches]), fun a hlo hhi => ?_⟩
    omega
  | succ fuel ih =>
    unfold mapLoop
    split_ifs with hzero
    · subst hzero
      refine ⟨fun batch hbatch => absurd hbatch (by simp [gpuBatches]), fun a hlo hhi => ?_⟩
      omega
    · dsimp only
      rw [gpuBatches]
      generalize hsize : min (cfg.chunkSize - offset) remaining = size
      have hpos := cfg.chunkSize_pos
      obtain ⟨hinside, hcover⟩ :=
        ih (chunkId + 1) 0 (remaining - size) (gpuOffset + size) hpos (by omega)
      constructor
      · intro batch hbatch
        rcases List.mem_cons.mp hbatch with rfl | hbatch
        · refine ⟨?_, ?_, ?_, ?_⟩ <;> dsimp only <;> omega
        · obtain ⟨hchunk, hlo, hhi, hdistance⟩ := hinside batch hbatch
          refine ⟨hchunk, by omega, by omega, ?_⟩
          -- the range goes on in the next host chunk only when it has filled this one
          have hfilled : size = cfg.chunkSize - offset := by
            by_contra hne
            obtain hnone : remaining - size = 0 := by omega
            rw [hnone, mapLoop_zero] at hbatch
            exact absurd hbatch (by simp [gpuBatches])
          rw [Nat.add_mul] at hdistance
          omega
      · intro a hlo hhi
        by_cases ha : a < gpuOffset + size
        · exact ⟨_, List.mem_cons_self, hlo, ha⟩
        · obtain ⟨batch, hbatch, hcover⟩ := hcover a (by omega) (by omega)
          exact ⟨batch, List.mem_cons_of_mem _ hbatch, hcover⟩

/-- A byte that a piece of a copy chunk brings is the one the copy chunk names. -/
theorem batchesOf_inside {chunk : CopyChunk} {batch : GpuBatch} (h : batch ∈ batchesOf cfg chunk)
    {a : ℕ} (hlo : batch.gpuOffset ≤ a) (hhi : a < batch.gpuOffset + batch.size) :
    chunk.deviceOffset ≤ a ∧ a < chunk.deviceOffset + chunk.size ∧
      (chunk.offset + (a - chunk.deviceOffset)) / cfg.chunkSize = batch.chunkId ∧
      (chunk.offset + (a - chunk.deviceOffset)) % cfg.chunkSize =
        batch.chunkOffset + (a - batch.gpuOffset) := by
  have hpos := cfg.chunkSize_pos
  obtain ⟨hchunk, hfrom, hto, hdistance⟩ :=
    (mapLoop_spec chunk.size (chunk.offset / cfg.chunkSize) (chunk.offset % cfg.chunkSize)
      chunk.size chunk.deviceOffset (Nat.mod_lt _ hpos) le_rfl).1 batch h
  rw [Nat.div_add_mod'] at hdistance
  have hsource : chunk.offset + (a - chunk.deviceOffset) =
      batch.chunkOffset + (a - batch.gpuOffset) + batch.chunkId * cfg.chunkSize := by
    omega
  refine ⟨by omega, by omega, ?_, ?_⟩
  · rw [hsource, Nat.add_mul_div_right _ _ hpos, Nat.div_eq_of_lt (by omega), Nat.zero_add]
  · rw [hsource, Nat.add_mul_mod_self_right, Nat.mod_eq_of_lt (by omega)]

theorem batchesOf_cover {chunk : CopyChunk} {a : ℕ} (hlo : chunk.deviceOffset ≤ a)
    (hhi : a < chunk.deviceOffset + chunk.size) :
    ∃ batch ∈ batchesOf cfg chunk, batch.gpuOffset ≤ a ∧ a < batch.gpuOffset + batch.size :=
  (mapLoop_spec chunk.size (chunk.offset / cfg.chunkSize) (chunk.offset % cfg.chunkSize) chunk.size
    chunk.deviceOffset (Nat.mod_lt _ cfg.chunkSize_pos) le_rfl).2 a hlo hhi

/-- A piece takes some bytes of one host chunk, and none behind the request. -/
theorem mapLoop_bounds {fuel chunkId offset remaining : ℕ} (hoffset : offset < cfg.chunkSize)
    {piece : ℕ × ℕ × ℕ} (h : piece ∈ mapLoop cfg.chunkSize fuel chunkId offset remaining) :
    0 < piece.2.2 ∧ piece.2.1 + piece.2.2 ≤ cfg.chunkSize ∧
      piece.1 * cfg.chunkSize + piece.2.1 + piece.2.2 ≤
        chunkId * cfg.chunkSize + offset + remaining := by
  induction fuel generalizing chunkId offset remaining with
  | zero => exact absurd h List.not_mem_nil
  | succ fuel ih =>
    have hpos := cfg.chunkSize_pos
    rw [mapLoop] at h
    split_ifs at h with hzero
    · exact absurd h List.not_mem_nil
    · rcases List.mem_cons.mp h with rfl | h
      · dsimp only
        omega
      · obtain ⟨hsize, hchunk, hend⟩ := ih hpos h
        refine ⟨hsize, hchunk, hend.trans ?_⟩
        rw [Nat.add_mul]
        by_cases hfilled : cfg.chunkSize - offset ≤ remaining
        · omega
        · -- nothing is left for the next host chunk
          have hnone : remaining - min (cfg.chunkSize - offset) remaining = 0 := by omega
          rw [hnone, mapLoop_zero] at h
          exact absurd h List.not_mem_nil

/-- A piece with its place on the device. -/
theorem exists_of_mem_gpuBatches {pieces : List (ℕ × ℕ × ℕ)} {gpuOffset : ℕ} {batch : GpuBatch}
    (h : batch ∈ gpuBatches gpuOffset pieces) : ∃ piece ∈ pieces,
      batch.chunkId = piece.1 ∧ batch.chunkOffset = piece.2.1 ∧ batch.size = piece.2.2 := by
  induction pieces generalizing gpuOffset with
  | nil => exact absurd h List.not_mem_nil
  | cons piece pieces ih =>
    rcases List.mem_cons.mp h with rfl | h
    · exact ⟨piece, List.mem_cons_self, rfl, rfl, rfl⟩
    · obtain ⟨piece', hmem, heq⟩ := ih h
      exact ⟨piece', List.mem_cons_of_mem _ hmem, heq⟩

/-- The host chunks of the pieces are those of the bytes. -/
theorem batchesOf_lt_iff {chunk : CopyChunk} {numChunks : ℕ} :
    (∀ batch ∈ batchesOf cfg chunk, batch.chunkId < numChunks) ↔
      ∀ i < chunk.size, (chunk.offset + i) / cfg.chunkSize < numChunks := by
  constructor
  · intro h i hi
    obtain ⟨batch, hbatch, hlo, hhi⟩ : ∃ batch ∈ batchesOf cfg chunk,
        batch.gpuOffset ≤ chunk.deviceOffset + i ∧
          chunk.deviceOffset + i < batch.gpuOffset + batch.size :=
      batchesOf_cover (Nat.le_add_right _ _) (by omega)
    obtain ⟨-, -, hdiv, -⟩ := batchesOf_inside hbatch hlo hhi
    rw [Nat.add_sub_cancel_left] at hdiv
    rw [hdiv]
    exact h batch hbatch
  · intro h batch hbatch
    obtain ⟨piece, hpiece, -, -, hsize⟩ := exists_of_mem_gpuBatches hbatch
    have hpos := (mapLoop_bounds (Nat.mod_lt _ cfg.chunkSize_pos) hpiece).1
    obtain ⟨hfrom, hto, hdiv, -⟩ := batchesOf_inside hbatch le_rfl (by omega)
    rw [← hdiv]
    exact h _ (by omega)

theorem mem_gpuLoadingQueue {numChunks : ℕ} {chunks : List CopyChunk} {batch : GpuBatch} :
    batch ∈ gpuLoadingQueue cfg numChunks chunks ↔
      batch.chunkId < numChunks ∧ ∃ chunk ∈ chunks, batch ∈ batchesOf cfg chunk := by
  simp [gpuLoadingQueue]

/-- **`ToGpu`** does what the copy chunks say: cut at the borders of the host chunks and put into
another order, they still bring the same bytes to the same places. -/
theorem toGpu_eq {host : ℕ → ℕ → Byte} {numChunks : ℕ} {chunks : List CopyChunk}
    (hchunks : chunks.Pairwise fun x y => x.deviceOffset + x.size ≤ y.deviceOffset)
    (hsource : ∀ chunk ∈ chunks, ∀ i < chunk.size,
      (chunk.offset + i) / cfg.chunkSize < numChunks) (memory : ℕ → Byte) :
    toGpu cfg host numChunks chunks memory =
      executeCopyChunks (fun a => host (a / cfg.chunkSize) (a % cfg.chunkSize)) chunks memory := by
  funext a
  by_cases hcovered : ∃ chunk ∈ chunks, chunk.deviceOffset ≤ a ∧ a < chunk.deviceOffset + chunk.size
  · refine copyEach_apply _ _ _ _ _ ?_ ?_
    · intro batch hbatch hlo hhi
      obtain ⟨-, chunk, hchunk, hbatch⟩ := mem_gpuLoadingQueue.mp hbatch
      obtain ⟨hfrom, hto, hdiv, hmod⟩ := batchesOf_inside hbatch hlo hhi
      rw [← hdiv, ← hmod]
      obtain ⟨i, rfl⟩ := Nat.exists_eq_add_of_le hfrom
      rw [executeCopyChunks, copyAll_apply _ _ _ _ _ hchunks hchunk (by omega),
        Nat.add_sub_cancel_left]
    · obtain ⟨chunk, hchunk, hlo, hhi⟩ := hcovered
      obtain ⟨batch, hbatch, hlo', hhi'⟩ := batchesOf_cover hlo hhi
      obtain ⟨-, -, hdiv, -⟩ := batchesOf_inside hbatch hlo' hhi'
      refine ⟨batch, mem_gpuLoadingQueue.mpr ⟨?_, chunk, hchunk, hbatch⟩, hlo', hhi'⟩
      rw [← hdiv]
      exact hsource chunk hchunk _ (by omega)
  · have houtside : ∀ chunk ∈ chunks,
        a < chunk.deviceOffset ∨ chunk.deviceOffset + chunk.size ≤ a := by
      intro chunk hchunk
      by_contra hin
      exact hcovered ⟨chunk, hchunk, by omega, by omega⟩
    rw [executeCopyChunks, copyAll_outside _ _ _ _ _ houtside]
    refine copyEach_outside _ _ _ _ _ ?_
    intro batch hbatch
    obtain ⟨-, chunk, hchunk, hbatch⟩ := mem_gpuLoadingQueue.mp hbatch
    by_contra hin
    obtain ⟨hfrom, hto, -⟩ := batchesOf_inside hbatch (a := a) (by omega) (by omega)
    exact hcovered ⟨chunk, hchunk, hfrom, hto⟩

end Dispatch

end Store
end SpotServe
