import SpotServe.Store.HostLoad
import SpotServe.Store.RecordOffsets

/-!
# Which checkpoints the host load reads

`ToHost` gives each thread a run of chunks, and the runs of all threads together are all chunks in
order.  So when no thread fails, every chunk is enqueued once and the host chunks are the
concatenated partitions (`toHost_eq`).  A thread fails on a chunk that goes beyond the partition
after the one its read starts in (`HostReadable`); the records that a `TensorWriter` is given decide
the sizes of the partitions, and with them whether there is such a chunk.

* `flatMap_threadChunks`, `flatMap_imageChunk`: the runs and the chunks leave nothing out.
* `loadsHost_iff`: exactly when the load of any partition files succeeds.
* `hostReadable_of_chunkSize_le`: partitions that are no smaller than a chunk are always read.
* `loadsHost_writeRecords_iff`: the same for the files that a `TensorWriter` leaves behind.
-/

namespace SpotServe
namespace Store

open Packing

section Coverage

variable (cfg : StoreConfig)

/-- The runs of the first threads are the first chunks. -/
theorem flatMap_threadChunks (files : List (List Byte)) (threads : ℕ) :
    (List.range threads).flatMap (threadChunks cfg files) =
      (List.range (min (threads * cfg.chunkPerThread files.flatten.length)
        (cfg.numChunks files.flatten.length))).map
          fun chunk => (chunk, imageChunk cfg files.flatten chunk) := by
  induction threads with
  | zero => simp
  | succ threads ih =>
    generalize hper : cfg.chunkPerThread files.flatten.length = per at *
    generalize hnum : cfg.numChunks files.flatten.length = num at *
    rw [List.range_succ, List.flatMap_append, ih, List.flatMap_singleton, threadChunks, threadCount,
      hper, hnum, Nat.succ_mul]
    rcases Nat.le_total num (threads * per) with hle | hle
    · -- nothing is left for this thread
      have hnone : min (threads * per + per) num - threads * per = 0 := by omega
      have hmin : min (threads * per + per) num = min (threads * per) num := by omega
      rw [hnone, hmin, List.range_zero, List.map_nil, List.append_nil]
    · have hsplit : min (threads * per + per) num =
          threads * per + (min (threads * per + per) num - threads * per) := by omega
      rw [Nat.min_eq_left hle]
      conv_rhs => rw [hsplit, List.range_add, List.map_append, List.map_map]
      rfl

/-- The chunks of an image, one after the other. -/
theorem flatMap_imageChunk (image : List Byte) (count : ℕ) :
    (List.range count).flatMap (imageChunk cfg image) = image.take (count * cfg.chunkSize) := by
  induction count with
  | zero => simp
  | succ count ih =>
    have hchunk : imageChunk cfg image count =
        (image.drop (count * cfg.chunkSize)).take cfg.chunkSize := by
      rw [imageChunk, ← List.length_drop, ← List.take_eq_take_min]
    rw [List.range_succ, List.flatMap_append, ih, List.flatMap_singleton, hchunk, Nat.succ_mul,
      List.take_add]

theorem le_numChunks_mul (size : ℕ) : size ≤ cfg.numChunks size * cfg.chunkSize := by
  have hchunk := cfg.lt_numChunks_iff size (cfg.numChunks size)
  omega

theorem numChunks_le (size : ℕ) :
    cfg.numChunks size ≤ cfg.numThreads * cfg.chunkPerThread size := by
  rw [StoreConfig.chunkPerThread]
  have hthreads := cfg.numThreads_pos
  have := Nat.div_add_mod (cfg.numChunks size + cfg.numThreads - 1) cfg.numThreads
  have := Nat.mod_lt (cfg.numChunks size + cfg.numThreads - 1) hthreads
  omega

end Coverage

/-! ## The load -/

section Load

variable {cfg : StoreConfig} {files : List (List Byte)}

/-- **`ToHost`** enqueues all chunks in order, when it succeeds. -/
theorem toHost_eq (hsize : files.flatten.length ≠ 0)
    (hreadable : HostReadable cfg (files.map List.length)) :
    toHost cfg files = some ((List.range (cfg.numChunks files.flatten.length)).map fun chunk =>
      (chunk, imageChunk cfg files.flatten chunk)) := by
  unfold HostReadable at hreadable
  rw [sum_map_length] at hreadable
  have hthread : ∀ thread ∈ List.range cfg.numThreads,
      readThread cfg files thread = some (threadChunks cfg files thread) := by
    intro thread _
    refine readThread_of_le fun j hj => hreadable _ ?_
    have := threadCount_le thread (Nat.zero_lt_of_lt hj)
    omega
  rw [toHost, if_neg hsize, readThreads_of_some hthread, flatMap_threadChunks,
    Nat.min_eq_right (numChunks_le cfg _)]

variable (cfg files) in
/-- What a load has to do: it succeeds, every chunk is enqueued once, and the host chunks hold, in
order, the concatenation of the partitions. -/
def LoadsHost : Prop :=
  ∃ loaded, toHost cfg files = some loaded ∧
    (loaded.map Prod.fst).Perm (List.range (cfg.numChunks files.flatten.length)) ∧
    (List.range (cfg.numChunks files.flatten.length)).flatMap
      (fun chunk => (loaded.lookup chunk).getD []) = files.flatten

/-- **When a load does what it has to do**: there is a model, and no chunk is out of reach. -/
theorem loadsHost_iff : LoadsHost cfg files ↔
    files.flatten.length ≠ 0 ∧ HostReadable cfg (files.map List.length) := by
  constructor
  · rintro ⟨loaded, hloaded, -⟩
    constructor
    · intro hempty
      rw [toHost, if_pos hempty] at hloaded
      exact absurd hloaded (by simp)
    · by_contra hreadable
      rw [toHost_of_not_readable hreadable] at hloaded
      exact absurd hloaded (by simp)
  · rintro ⟨hsize, hreadable⟩
    refine ⟨_, toHost_eq hsize hreadable, ?_, ?_⟩
    · rw [List.map_map]
      exact List.Perm.of_eq (List.map_id _)
    · obtain ⟨loaded, hloaded, hlookup⟩ := toHost_of_readable hsize hreadable
      obtain rfl := Option.some.inj ((toHost_eq hsize hreadable).symm.trans hloaded)
      calc (List.range (cfg.numChunks files.flatten.length)).flatMap _
          = (List.range (cfg.numChunks files.flatten.length)).flatMap
              (imageChunk cfg files.flatten) := by
            refine List.flatMap_congr fun chunk hchunk => ?_
            rw [hlookup chunk (List.mem_range.mp hchunk), Option.getD_some]
        _ = files.flatten := by
            rw [flatMap_imageChunk]
            exact List.take_of_length_le (le_numChunks_mul cfg _)

/-- A read goes on for a chunk at least, or to the end, when the partitions are no smaller. -/
theorem le_reach {chunkSize : ℕ} {sizes : List ℕ} (h : ∀ size ∈ sizes.dropLast, chunkSize ≤ size)
    {b : ℕ} (hb : b < sizes.sum) : min (b + 1 + chunkSize) sizes.sum ≤ reach sizes b := by
  induction sizes generalizing b with
  | nil => exact absurd hb (Nat.not_lt_zero b)
  | cons size rest ih =>
    rw [List.sum_cons] at hb ⊢
    rw [reach]
    split_ifs with hlt
    · rcases rest with _ | ⟨next, _ | ⟨after, rest⟩⟩
      · rw [List.sum_nil, List.headD_nil]
        omega
      · rw [List.sum_cons, List.sum_nil, List.headD_cons]
        omega
      · have hnext : chunkSize ≤ next := h next (by simp)
        rw [List.headD_cons]
        omega
    · have hrest : rest ≠ [] := by
        rintro rfl
        rw [List.sum_nil] at hb
        omega
      have hle := ih (fun size' hsize' => h size' (by
        rw [List.dropLast_cons_of_ne_nil hrest]
        exact List.mem_cons_of_mem size hsize')) (b := b - size) (by omega)
      omega

/-- Partitions that are no smaller than a chunk, the last one apart, are always read. -/
theorem hostReadable_of_chunkSize_le {sizes : List ℕ}
    (h : ∀ size ∈ sizes.dropLast, cfg.chunkSize ≤ size) : HostReadable cfg sizes := by
  intro chunk hchunk
  rw [cfg.lt_numChunks_iff] at hchunk
  have hfrom : chunk * cfg.chunkSize ≤ cfg.readFrom sizes.sum chunk + 1 ∧
      cfg.readFrom sizes.sum chunk < sizes.sum := by
    unfold StoreConfig.readFrom
    split_ifs <;> omega
  have hreach := le_reach h hfrom.2
  rw [StoreConfig.chunkEnd, Nat.add_mul, Nat.one_mul]
  omega

end Load

/-! ## The files of a writer -/

/-- The sizes of the partitions of a sequence of records. -/
def partitionSizesOf (maxSize : ℕ) (records : List RecordData) : List ℕ :=
  (records.map RecordData.size).foldl (addRecord maxSize) []

theorem total_paddedSize_ne_zero_iff (records : List RecordData) :
    total RecordData.paddedSize records ≠ 0 ↔ ∃ record ∈ records, 0 < record.size := by
  induction records with
  | nil => simp
  | cons record records ih =>
    rw [total_cons, List.exists_mem_cons_iff, ← ih, RecordData.paddedSize]
    have hpadding : record.size = 0 → padding record.size = 0 := fun h => by rw [h]; rfl
    omega

/-- **Which checkpoints are read**: those with a byte, and with no chunk beyond the partition after
the one in which its read starts. -/
theorem loadsHost_writeRecords_iff (cfg : StoreConfig) (s : BufferSizes) (maxSize : ℕ)
    (garbage : ℕ → ℕ → Byte) (records : List RecordData) :
    LoadsHost cfg (writeRecords s maxSize garbage {} records).2.1.files ↔
      (∃ record ∈ records, 0 < record.size) ∧
        HostReadable cfg (partitionSizesOf maxSize records) := by
  have hwritten := ((recordsWritten_empty s maxSize).writeRecords garbage records).1
  rw [loadsHost_iff, hwritten.length, hwritten.sizes, List.nil_append, total_paddedSize_ne_zero_iff]
  rfl

/-- A record between two large ones, with the sizes and the defaults of the source: the last chunk
of the first partition is full, and the next one would need the two partitions after it. -/
theorem not_loadsHost_small_between :
    ¬ ∀ (cfg : StoreConfig) (s : BufferSizes) (maxSize : ℕ) (garbage : ℕ → ℕ → Byte)
      (records : List RecordData),
      LoadsHost cfg (writeRecords s maxSize garbage {} records).2.1.files := by
  intro h
  have hloads := h ⟨2 ^ 25, 4, by decide, by decide⟩ .source kPartitionMaxSize (fun _ _ => 0)
    [⟨fun _ => 0, kPartitionMaxSize⟩, ⟨fun _ => 0, 8⟩, ⟨fun _ => 0, kPartitionMaxSize⟩]
  have hwritten := ((recordsWritten_empty .source kPartitionMaxSize).writeRecords (fun _ _ => 0)
    [⟨fun _ => 0, kPartitionMaxSize⟩, ⟨fun _ => 0, 8⟩, ⟨fun _ => 0, kPartitionMaxSize⟩]).1
  have hreadable := (loadsHost_iff.mp hloads).2 320
  rw [hwritten.sizes] at hreadable
  exact absurd hreadable (by decide +kernel)

end Store
end SpotServe
