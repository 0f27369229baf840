import Mathlib.Data.List.Pairwise
import SpotServe.Library.Segments
import SpotServe.Store.GpuDispatch
import SpotServe.Store.PoolConservation

/-!
# The devices get the image

The pieces of a request follow each other on the device, and each lies in one host chunk.  Filing
them by host chunk and taking them out in the order in which the host chunks were read changes only
their order, so every byte of a request is brought by exactly one piece.

* `mapDataToIntChunks_eq`: no `int` overflows, since a pool hands out fewer than `2 ^ 31` buffers
  (`HostImage.numChunks_lt`).
* `countP_batchesOf`: a request is cut into pieces that cover it once.
* `dispatchToGpu_eq`: the queues are regrouped pieces.
* `deviceCopies_reproduce`: the copies.
-/

namespace SpotServe
namespace Store

open Py Packing

/-! ## The pieces of a request -/

section Pieces

variable {cfg : StoreConfig}

/-- The bytes that a piece brings. -/
def GpuBatch.Covers (batch : GpuBatch) (a : ℕ) : Prop :=
  batch.gpuOffset ≤ a ∧ a < batch.gpuOffset + batch.size

instance GpuBatch.decidableCovers (batch : GpuBatch) (a : ℕ) : Decidable (batch.Covers a) :=
  inferInstanceAs (Decidable (_ ∧ _))

/-- **A request is covered once.** -/
theorem countP_gpuBatches {fuel chunkId offset remaining : ℕ} (hoffset : offset < cfg.chunkSize)
    (hfuel : remaining ≤ fuel) (gpuOffset a : ℕ) :
    (gpuBatches gpuOffset (mapLoop cfg.chunkSize fuel chunkId offset remaining)).countP
      (fun batch => batch.Covers a) =
        if gpuOffset ≤ a ∧ a < gpuOffset + remaining then 1 else 0 := by
  induction fuel generalizing chunkId offset remaining gpuOffset with
  | zero =>
    rw [mapLoop, if_neg (by omega)]
    rfl
  | succ fuel ih =>
    have hpos := cfg.chunkSize_pos
    rw [mapLoop]
    split_ifs with hzero hcovered hcovered
    · omega
    · rfl
    all_goals
      dsimp only
      rw [gpuBatches, List.countP_cons, ih hpos (by omega)]
      have hcovers : decide (GpuBatch.Covers ⟨chunkId, offset,
          min (cfg.chunkSize - offset) remaining, gpuOffset⟩ a) =
          decide (gpuOffset ≤ a ∧ a < gpuOffset + min (cfg.chunkSize - offset) remaining) := rfl
      simp only [hcovers, decide_eq_true_eq]
      split_ifs <;> omega

theorem countP_batchesOf (request : CopyChunk) (a : ℕ) :
    (batchesOf cfg request).countP (fun batch => batch.Covers a) =
      if request.deviceOffset ≤ a ∧ a < request.deviceOffset + request.size then 1 else 0 :=
  countP_gpuBatches (Nat.mod_lt _ cfg.chunkSize_pos) le_rfl _ _

/-! ### `int`s -/

/-- After the first turn the chunks are read from their beginning. -/
theorem mapIntLoop_of_lt {numChunks fuel chunkId remaining : ℕ} (hnum : numChunks < 2 ^ 31)
    {startChunk : ℤ} (offsetInStartChunk : ℕ) (hstart : startChunk < chunkId)
    (hend : remaining ≠ 0 → chunkId * cfg.chunkSize + remaining ≤ numChunks * cfg.chunkSize) :
    mapIntLoop cfg.chunkSize startChunk offsetInStartChunk fuel chunkId remaining =
      some ((mapLoop cfg.chunkSize fuel chunkId 0 remaining).map fun piece =>
        ((piece.1 : ℤ), piece.2)) := by
  induction fuel generalizing chunkId remaining with
  | zero => rfl
  | succ fuel ih =>
    have hpos := cfg.chunkSize_pos
    rw [mapIntLoop, mapLoop]
    split_ifs with hzero hsame hsmall hsmall
    · rfl
    · omega
    · omega
    · have hnext : ((chunkId : ℤ) + 1) = ((chunkId + 1 : ℕ) : ℤ) := by omega
      have hend := hend hzero
      have hrest : remaining - min cfg.chunkSize remaining ≠ 0 →
          (chunkId + 1) * cfg.chunkSize + (remaining - min cfg.chunkSize remaining) ≤
            numChunks * cfg.chunkSize := by
        intro hne
        rw [Nat.add_mul]
        omega
      dsimp only
      rw [Nat.sub_zero, hnext, ih (by omega) hrest]
      rfl
    · -- the chunk of a byte is one of the chunks
      have hend := hend hzero
      have hlt : chunkId * cfg.chunkSize < numChunks * cfg.chunkSize := by omega
      have := Nat.lt_of_mul_lt_mul_right hlt
      omega

theorem mapDataToIntChunks_eq {numChunks : ℕ} (hnum : numChunks < 2 ^ 31) {request : CopyChunk}
    (hend : request.offset + request.size ≤ numChunks * cfg.chunkSize) :
    mapDataToIntChunks request.offset request.size cfg.chunkSize =
      some ((mapDataToChunks request.offset request.size cfg.chunkSize).map fun piece =>
        ((piece.1 : ℤ), piece.2)) := by
  have hpos := cfg.chunkSize_pos
  unfold mapDataToIntChunks mapDataToChunks
  cases hsize : request.size with
  | zero => rfl
  | succ size =>
    rw [hsize] at hend
    have hlt : request.offset / cfg.chunkSize < numChunks :=
      (Nat.div_lt_iff_lt_mul hpos).mpr (by omega)
    have hdiv := Nat.div_add_mod' request.offset cfg.chunkSize
    generalize hoffset : request.offset % cfg.chunkSize = offset at *
    generalize hchunk : request.offset / cfg.chunkSize = chunkId at *
    dsimp only
    rw [toInt_of_lt (by omega), mapIntLoop, mapLoop, if_neg (Nat.succ_ne_zero size),
      if_neg (Nat.succ_ne_zero size), if_pos rfl, if_pos rfl, if_pos (by omega)]
    have hnext : ((chunkId : ℤ) + 1) = ((chunkId + 1 : ℕ) : ℤ) := by omega
    have hrest : size + 1 - min (cfg.chunkSize - offset) (size + 1) ≠ 0 →
        (chunkId + 1) * cfg.chunkSize + (size + 1 - min (cfg.chunkSize - offset) (size + 1)) ≤
          numChunks * cfg.chunkSize := by
      intro hne
      rw [Nat.add_mul]
      omega
    rw [hnext, mapIntLoop_of_lt hnum offset (by omega) hrest]
    rfl

end Pieces

/-! ## Filing the pieces -/

section Filing

variable {δ : Type*} [DecidableEq δ] {cfg : StoreConfig}

/-- The pieces of a request. -/
def handleBatches (cfg : StoreConfig) (request : CopyChunk) : List HandleBatch :=
  (batchesOf cfg request).map fun batch => ⟨batch, request.handle⟩

/-- The pieces of a device. -/
def deviceBatches (cfg : StoreConfig) (device : DeviceRequests) : List HandleBatch :=
  device.requests.flatMap (handleBatches cfg)

/-- What is filed under a host chunk for a device. -/
def filedAt (table : List (List (GpuChunk δ))) (deviceId : δ) (chunkId : ℕ) : List HandleBatch :=
  enqueueChunk deviceId chunkId ((table[chunkId]?).getD [])

/-- Some pieces of a device were filed. -/
structure Files (deviceId : δ) (batches : List HandleBatch)
    (table table' : List (List (GpuChunk δ))) : Prop where
  length_eq : table'.length = table.length
  filedAt_eq : ∀ other chunkId, filedAt table' other chunkId = filedAt table other chunkId ++
    if other = deviceId then batches.filter fun batch => batch.chunkId = chunkId else []

variable {deviceId : δ} {batches batches' : List HandleBatch}
  {table table' table'' : List (List (GpuChunk δ))}

theorem Files.refl : Files deviceId [] table table := by
  refine ⟨rfl, fun other chunkId => ?_⟩
  rw [List.filter_nil, ite_self, List.append_nil]

theorem Files.trans (h : Files deviceId batches table table')
    (h' : Files deviceId batches' table' table'') :
    Files deviceId (batches ++ batches') table table'' := by
  refine ⟨h'.length_eq.trans h.length_eq, fun other chunkId => ?_⟩
  rw [h'.filedAt_eq, h.filedAt_eq, List.filter_append]
  split_ifs
  · rw [List.append_assoc]
  · rw [List.append_nil, List.append_nil]

theorem enqueueChunk_append (chunkId : ℕ) (gpuChunks gpuChunks' : List (GpuChunk δ)) :
    enqueueChunk deviceId chunkId (gpuChunks ++ gpuChunks') =
      enqueueChunk deviceId chunkId gpuChunks ++ enqueueChunk deviceId chunkId gpuChunks' := by
  unfold enqueueChunk
  rw [List.filter_append, List.map_append]

/-- **One piece.** -/
theorem pushPiece_files (deviceId : δ) {st : RequestState δ} {handle chunkId gpuOffset : ℕ}
    (chunkOffset size : ℕ) (hoffset : st.handleOffsets[handle]? = some gpuOffset)
    (hchunk : chunkId < st.chunkIdToGpuChunks.length) :
    ∃ st', pushPiece deviceId handle st ((chunkId : ℤ), chunkOffset, size) = some st' ∧
      st'.handleOffsets = st.handleOffsets.set handle (gpuOffset + size) ∧
      Files deviceId [⟨⟨chunkId, chunkOffset, size, gpuOffset⟩, handle⟩] st.chunkIdToGpuChunks
        st'.chunkIdToGpuChunks := by
  unfold pushPiece
  dsimp only
  rw [hoffset]
  dsimp only
  rw [Int.toNat_natCast, if_pos ⟨Int.natCast_nonneg _, hchunk⟩]
  refine ⟨_, rfl, rfl, ?_, ?_⟩
  · exact List.length_modify _ _ _
  · intro other chunkId'
    unfold filedAt
    dsimp only
    rw [List.getElem?_modify]
    by_cases hsame : chunkId = chunkId'
    · subst hsame
      rw [List.getElem?_eq_getElem hchunk]
      simp only [if_true, Option.map_eq_map, Option.map_some, Option.getD_some]
      rw [enqueueChunk_append]
      congr 1
      by_cases hdevice : other = deviceId
      · simp [enqueueChunk, hdevice]
      · simp [enqueueChunk, hdevice, Ne.symm hdevice]
    · simp [hsame]

/-- The pieces of a request. -/
theorem pushPieces_files (deviceId : δ) {handle : ℕ} {pieces : List (ℕ × ℕ × ℕ)}
    {st : RequestState δ} {gpuOffset : ℕ} (hoffset : st.handleOffsets[handle]? = some gpuOffset)
    (hpieces : ∀ piece ∈ pieces, piece.1 < st.chunkIdToGpuChunks.length) :
    ∃ st', (pieces.map fun piece => ((piece.1 : ℤ), piece.2)).foldlM (pushPiece deviceId handle) st
        = some st' ∧
      st'.handleOffsets.length = st.handleOffsets.length ∧
      Files deviceId ((gpuBatches gpuOffset pieces).map fun batch => ⟨batch, handle⟩)
        st.chunkIdToGpuChunks st'.chunkIdToGpuChunks := by
  induction pieces generalizing st gpuOffset with
  | nil => exact ⟨st, rfl, rfl, .refl⟩
  | cons piece pieces ih =>
    obtain ⟨chunkId, chunkOffset, size⟩ := piece
    obtain ⟨st₁, hpush, hoffsets, hfiles⟩ :=
      pushPiece_files deviceId chunkOffset size hoffset (hpieces _ List.mem_cons_self)
    have hlt : handle < st.handleOffsets.length := (List.getElem?_eq_some_iff.mp hoffset).1
    have hoffset₁ : st₁.handleOffsets[handle]? = some (gpuOffset + size) := by
      rw [hoffsets, List.getElem?_set_self hlt]
    have hpieces₁ : ∀ piece ∈ pieces, piece.1 < st₁.chunkIdToGpuChunks.length := by
      intro piece hpiece
      rw [hfiles.length_eq]
      exact hpieces piece (List.mem_cons_of_mem _ hpiece)
    obtain ⟨st', hrest, hlength, hfiles'⟩ := ih hoffset₁ hpieces₁
    refine ⟨st', ?_, ?_, hfiles.trans hfiles'⟩
    · rw [List.map_cons, List.foldlM_cons, hpush]
      exact hrest
    · rw [hlength, hoffsets, List.length_set]

variable {numChunks : ℕ}

/-- **One request.** -/
theorem pushRequest_files (deviceId : δ) (hnum : numChunks < 2 ^ 31) {st : RequestState δ}
    {request : CopyChunk}
    (hlength : st.chunkIdToGpuChunks.length = numChunks)
    (hhandle : request.handle < st.handleOffsets.length)
    (hend : request.offset + request.size ≤ numChunks * cfg.chunkSize) :
    ∃ st', pushRequest cfg.chunkSize deviceId st request = some st' ∧
      st'.handleOffsets.length = st.handleOffsets.length ∧
      Files deviceId (handleBatches cfg request) st.chunkIdToGpuChunks st'.chunkIdToGpuChunks := by
  have hpos := cfg.chunkSize_pos
  have hpieces : ∀ piece ∈ mapDataToChunks request.offset request.size cfg.chunkSize,
      piece.1 < st.chunkIdToGpuChunks.length := by
    intro piece hpiece
    obtain ⟨hsize, -, hbound⟩ := mapLoop_bounds (Nat.mod_lt _ hpos) hpiece
    rw [Nat.div_add_mod'] at hbound
    have hlt : piece.1 * cfg.chunkSize < numChunks * cfg.chunkSize := by omega
    rw [hlength]
    exact Nat.lt_of_mul_lt_mul_right hlt
  let started : RequestState δ :=
    { st with handleOffsets := st.handleOffsets.set request.handle request.deviceOffset }
  have hstarted : started.handleOffsets[request.handle]? = some request.deviceOffset :=
    List.getElem?_set_self hhandle
  obtain ⟨st', hpush, hlength', hfiles⟩ := pushPieces_files deviceId hstarted hpieces
  refine ⟨st', ?_, ?_, hfiles⟩
  · rw [pushRequest, if_pos hhandle, mapDataToIntChunks_eq hnum hend]
    exact hpush
  · exact hlength'.trans List.length_set

/-- The requests of a device. -/
theorem pushRequests_files (deviceId : δ) (hnum : numChunks < 2 ^ 31) {requests : List CopyChunk}
    {st : RequestState δ} (hlength : st.chunkIdToGpuChunks.length = numChunks)
    (hrequests : ∀ request ∈ requests, request.handle < st.handleOffsets.length ∧
      request.offset + request.size ≤ numChunks * cfg.chunkSize) :
    ∃ st', requests.foldlM (pushRequest cfg.chunkSize deviceId) st = some st' ∧
      Files deviceId (requests.flatMap (handleBatches cfg)) st.chunkIdToGpuChunks
        st'.chunkIdToGpuChunks := by
  induction requests generalizing st with
  | nil => exact ⟨st, rfl, .refl⟩
  | cons request requests ih =>
    obtain ⟨hhandle, hend⟩ := hrequests request List.mem_cons_self
    obtain ⟨st₁, hpush, hoffsets, hfiles⟩ :=
      pushRequest_files deviceId hnum hlength hhandle hend
    have hrequests₁ : ∀ request ∈ requests, request.handle < st₁.handleOffsets.length ∧
        request.offset + request.size ≤ numChunks * cfg.chunkSize := by
      rw [hoffsets]
      exact fun request hrequest => hrequests request (List.mem_cons_of_mem _ hrequest)
    obtain ⟨st', hrest, hfiles'⟩ := ih (hfiles.length_eq.trans hlength) hrequests₁
    refine ⟨st', ?_, ?_⟩
    · rw [List.foldlM_cons, hpush]
      exact hrest
    · rw [List.flatMap_cons]
      exact hfiles.trans hfiles'

/-- All devices. -/
theorem pushDevices_files (hnum : numChunks < 2 ^ 31) {devices : List (δ × DeviceRequests)}
    (hnodup : (devices.map Prod.fst).Nodup) {table : List (List (GpuChunk δ))}
    (hlength : table.length = numChunks)
    (hdevices : ∀ device ∈ devices, ∀ request ∈ device.2.requests,
      request.handle < device.2.numHandles ∧
        request.offset + request.size ≤ numChunks * cfg.chunkSize) :
    ∃ table', devices.foldlM (pushDevice cfg.chunkSize) table = some table' ∧
      table'.length = numChunks ∧
      ∀ other chunkId, filedAt table' other chunkId = filedAt table other chunkId ++
        (OrderedDict.getEntry devices other).elim [] fun device =>
          (deviceBatches cfg device).filter fun batch => batch.chunkId = chunkId := by
  induction devices generalizing table with
  | nil =>
    refine ⟨table, rfl, hlength, fun other chunkId => ?_⟩
    exact (List.append_nil _).symm
  | cons device devices ih =>
    obtain ⟨deviceId, requests⟩ := device
    rw [List.map_cons, List.nodup_cons] at hnodup
    let started : RequestState δ := ⟨List.replicate requests.numHandles 0, table⟩
    have hstarted : ∀ request ∈ requests.requests, request.handle < started.handleOffsets.length ∧
        request.offset + request.size ≤ numChunks * cfg.chunkSize := by
      intro request hrequest
      show request.handle < (List.replicate requests.numHandles 0).length ∧ _
      rw [List.length_replicate]
      exact hdevices _ List.mem_cons_self request hrequest
    obtain ⟨st, hpush, hfiles⟩ := pushRequests_files deviceId hnum hlength hstarted
    obtain ⟨table', hrest, hlength', hfiled⟩ := ih hnodup.2 (hfiles.length_eq.trans hlength)
      fun device hdevice => hdevices device (List.mem_cons_of_mem _ hdevice)
    refine ⟨table', ?_, hlength', fun other chunkId => ?_⟩
    · rw [List.foldlM_cons, pushDevice, hpush]
      exact hrest
    · rw [hfiled, hfiles.filedAt_eq, OrderedDict.getEntry, List.append_assoc]
      congr 1
      by_cases hdevice : other = deviceId
      · have hnone : OrderedDict.getEntry devices other = none :=
          OrderedDict.getEntry_eq_none_iff.mpr (hdevice ▸ hnodup.1)
        rw [hnone, if_pos hdevice, if_pos hdevice.symm]
        exact List.append_nil _
      · rw [if_neg hdevice, if_neg (Ne.symm hdevice), List.nil_append]

/-- A table that has all host chunks is read without going beyond it. -/
theorem mapM_getElem? {γ : Type*} {table : List (List γ)} {dequeued : List ℕ}
    (h : ∀ chunkId ∈ dequeued, chunkId < table.length) :
    (dequeued.mapM fun chunkId => (table[chunkId]?).map fun chunks => (chunkId, chunks)) =
      some (dequeued.map fun chunkId => (chunkId, (table[chunkId]?).getD [])) := by
  induction dequeued with
  | nil => rfl
  | cons chunkId dequeued ih =>
    have hchunk := h chunkId List.mem_cons_self
    rw [List.mapM_cons, ih fun chunkId' hmem => h chunkId' (List.mem_cons_of_mem _ hmem),
      List.map_cons, List.getElem?_eq_getElem hchunk]
    rfl

/-- **The queue of a device**, host chunk by host chunk. -/
theorem dispatchToGpu_eq (hnum : numChunks < 2 ^ 31) {requests : OrderedDict δ DeviceRequests}
    (hrequests : ∀ deviceId device, requests.get? deviceId = some device →
      ∀ request ∈ device.requests, request.handle < device.numHandles ∧
        request.offset + request.size ≤ numChunks * cfg.chunkSize)
    {dequeued : List ℕ} (hdequeued : ∀ chunkId ∈ dequeued, chunkId < numChunks) :
    ∃ queues, dispatchToGpu cfg.chunkSize numChunks requests dequeued = some queues ∧
      ∀ deviceId device, requests.get? deviceId = some device →
        queues deviceId = (dequeued.flatMap fun chunkId =>
          (deviceBatches cfg device).filter fun batch => batch.chunkId = chunkId) ++ [.last] := by
  obtain ⟨table, hpush, hlength, hfiled⟩ := pushDevices_files hnum requests.nodup
    (List.length_replicate : (List.replicate numChunks ([] : List (GpuChunk δ))).length = numChunks)
    fun device hdevice => hrequests device.1 device.2 (requests.mem_entries_iff.mp hdevice)
  rw [← hlength] at hdequeued
  refine ⟨fun deviceId => (dequeued.flatMap fun chunkId => filedAt table deviceId chunkId) ++
    [.last], ?_, fun deviceId device hdevice => ?_⟩
  · unfold dispatchToGpu
    rw [hpush]
    simp only [Option.bind_eq_bind, Option.bind_some, mapM_getElem? hdequeued]
    refine congrArg some (funext fun deviceId => ?_)
    rw [List.flatMap_map]
    rfl
  · dsimp only
    congr 1
    refine List.flatMap_congr fun chunkId _ => ?_
    have hempty : filedAt (List.replicate numChunks ([] : List (GpuChunk δ))) deviceId chunkId =
        [] := by
      unfold filedAt
      rw [List.getElem?_replicate]
      split_ifs <;> rfl
    have hentry : OrderedDict.getEntry requests.entries deviceId = some device := hdevice
    have := hfiled deviceId chunkId
    rw [hempty, hentry, List.nil_append] at this
    exact this

end Filing

/-! ## Copying -/

theorem copyBatches_eq (hostBuffers : ℕ → ℕ → Byte) {batches : List HandleBatch}
    (hsize : ∀ batch ∈ batches, 0 < batch.size) (devicePtrs : ℕ → ℕ → Byte) (handle : ℕ) :
    copyBatches hostBuffers (batches ++ [.last]) devicePtrs handle =
      copyEach (fun batch => batch.chunkOffset) (fun batch => batch.size)
        (fun batch => batch.gpuOffset) (fun batch : HandleBatch => hostBuffers batch.chunkId)
        (batches.filter fun batch => batch.handleIdx = handle) (devicePtrs handle) := by
  induction batches generalizing devicePtrs with
  | nil => rfl
  | cons batch batches ih =>
    have hpos := hsize batch List.mem_cons_self
    rw [List.cons_append, copyBatches, if_neg (by omega),
      ih fun batch' hmem => hsize batch' (List.mem_cons_of_mem _ hmem)]
    by_cases hhandle : batch.handleIdx = handle
    · subst hhandle
      rw [List.filter_cons_of_pos (by simp), Function.update_self]
      rfl
    · rw [List.filter_cons_of_neg (by simpa using hhandle),
        Function.update_of_ne (Ne.symm hhandle)]

/-! ## The image on the devices -/

/-- The host chunks of a model: buffers that the pool has handed out, with the image in them.  What
they hold behind the image does not matter. -/
structure HostImage (β : Type) where
  cfg : StoreConfig
  pool : PinnedMemoryPool β
  chunkSize_eq : cfg.chunkSize = pool.chunkSize
  order : IterationOrder β
  size : SizeT
  image : List Byte
  hostBuffers : ℕ → ℕ → Byte
  holds : ∀ (a : ℕ) (h : a < image.length),
    a / cfg.chunkSize < (pool.allocate order size).2.1.length ∧
      hostBuffers (a / cfg.chunkSize) (a % cfg.chunkSize) = image[a]

/-- `pinned_mem_->num_chunks()` -/
def HostImage.numChunks {β : Type} (host : HostImage β) : ℕ :=
  (host.pool.allocate host.order host.size).2.1.length

/-- The count of the buffers that are handed out is an `int` that is not negative. -/
theorem HostImage.numChunks_lt {β : Type} (host : HostImage β) : host.numChunks < 2 ^ 31 := by
  have hfree : host.pool.freeList.length ≤ 2 ^ 52 :=
    host.pool.free_sub.length_le.trans host.pool.length_le
  unfold HostImage.numChunks PinnedMemoryPool.allocate
  dsimp only
  split_ifs with hzero hmissing
  · exact Nat.two_pow_pos 31
  · exact Nat.two_pow_pos 31
  · rw [List.length_take]
    unfold PinnedMemoryPool.numBuffersNeeded buffersNeeded at hmissing ⊢
    rw [toSize_toInt] at hmissing ⊢
    split_ifs at hmissing ⊢ with hsmall
    · omega
    · omega

theorem HostImage.length_le {β : Type} (host : HostImage β) :
    host.image.length ≤ host.numChunks * host.cfg.chunkSize := by
  rcases Nat.eq_zero_or_pos host.image.length with hzero | hpos
  · omega
  · obtain ⟨hlt, -⟩ := host.holds (host.image.length - 1) (by omega)
    have := (Nat.div_lt_iff_lt_mul host.cfg.chunkSize_pos).mp hlt
    show host.image.length ≤ (host.pool.allocate host.order host.size).2.1.length * _
    omega

/-- The request writes to an address of a handle. -/
def CopyChunk.Writes (request : CopyChunk) (handle a : ℕ) : Prop :=
  request.handle = handle ∧ request.deviceOffset ≤ a ∧ a < request.deviceOffset + request.size

instance CopyChunk.decidableWrites (request : CopyChunk) (handle a : ℕ) :
    Decidable (request.Writes handle a) :=
  inferInstanceAs (Decidable (_ ∧ _))

/-- Two requests that write to different places. -/
def CopyChunk.Apart (x y : CopyChunk) : Prop :=
  ∀ handle a, ¬ (x.Writes handle a ∧ y.Writes handle a)

instance : Std.Symm CopyChunk.Apart := ⟨fun _ _ h handle a hboth => h handle a hboth.symm⟩

/-- The requests name handles that exist, lie in the image, and write to different places. -/
structure DeviceRequests.Valid (device : DeviceRequests) (imageSize : ℕ) : Prop where
  handle_lt : ∀ request ∈ device.requests, request.handle < device.numHandles
  inside : ∀ request ∈ device.requests, request.offset + request.size ≤ imageSize
  disjoint : device.requests.Pairwise CopyChunk.Apart

/-- What the queue of a device is to its requests. -/
structure DeviceRequests.Reproduced {β : Type} (device : DeviceRequests) (host : HostImage β)
    (queue : List HandleBatch) : Prop where
  /-- Only the last piece is empty, and no piece reads past its host chunk or the host chunks. -/
  ends : ∃ batches, queue = batches ++ [.last] ∧ ∀ batch ∈ batches, 0 < batch.size ∧
    batch.chunkId < host.numChunks ∧ batch.chunkOffset + batch.size ≤ host.cfg.chunkSize
  /-- A byte is copied once if there is a request for it, and otherwise not. -/
  once : ∀ handle a, (queue.countP fun batch => batch.handleIdx = handle ∧ batch.Covers a) =
    if ∃ request ∈ device.requests, request.Writes handle a then 1 else 0
  /-- The bytes of the requests are those of the image. -/
  copied : ∀ devicePtrs, ∀ request ∈ device.requests, ∀ i < request.size,
    host.image[request.offset + i]? = some
      (copyBatches host.hostBuffers queue devicePtrs request.handle (request.deviceOffset + i))
  /-- The other bytes stay. -/
  kept : ∀ devicePtrs handle a, (∀ request ∈ device.requests, ¬ request.Writes handle a) →
    copyBatches host.hostBuffers queue devicePtrs handle a = devicePtrs handle a

section Reproduced

variable {β : Type} {host : HostImage β} {device : DeviceRequests}

theorem countP_handleBatches (cfg : StoreConfig) (request : CopyChunk) (handle a : ℕ) :
    ((handleBatches cfg request).countP fun batch => batch.handleIdx = handle ∧ batch.Covers a) =
      if request.Writes handle a then 1 else 0 := by
  unfold handleBatches
  rw [List.countP_map]
  by_cases hhandle : request.handle = handle
  · have hsame : ((fun batch : HandleBatch => decide (batch.handleIdx = handle ∧ batch.Covers a)) ∘
        fun batch : GpuBatch => (⟨batch, request.handle⟩ : HandleBatch)) =
          fun batch : GpuBatch => decide (batch.Covers a) := by
      funext batch
      simp [hhandle]
    rw [hsame, countP_batchesOf]
    simp only [CopyChunk.Writes, hhandle, true_and]
  · rw [if_neg fun hwrites => hhandle hwrites.1, List.countP_eq_zero]
    intro batch _
    simp [hhandle]

/-- **Each byte once**: requests that write to different places do not meet. -/
theorem countP_deviceBatches (cfg : StoreConfig) {requests : List CopyChunk}
    (hdisjoint : requests.Pairwise CopyChunk.Apart) (handle a : ℕ) :
    ((requests.flatMap (handleBatches cfg)).countP
      fun batch => batch.handleIdx = handle ∧ batch.Covers a) =
        if ∃ request ∈ requests, request.Writes handle a then 1 else 0 := by
  induction requests with
  | nil => simp
  | cons request requests ih =>
    obtain ⟨hfirst, hrest⟩ := List.pairwise_cons.mp hdisjoint
    rw [List.flatMap_cons, List.countP_append, countP_handleBatches, ih hrest]
    by_cases hwrites : request.Writes handle a
    · have hnone : ¬ ∃ request' ∈ requests, request'.Writes handle a :=
        fun ⟨request', hmem, hwrites'⟩ => hfirst request' hmem handle a ⟨hwrites, hwrites'⟩
      rw [if_pos hwrites, if_neg hnone, if_pos ⟨request, List.mem_cons_self, hwrites⟩]
    · rw [if_neg hwrites, Nat.zero_add]
      refine if_congr ?_ rfl rfl
      rw [List.exists_mem_cons_iff]
      exact ⟨Or.inr, fun h => h.resolve_left hwrites⟩

/-- A piece of a request. -/
theorem mem_deviceBatches {cfg : StoreConfig} {batch : HandleBatch} :
    batch ∈ deviceBatches cfg device ↔ ∃ request ∈ device.requests,
      batch.toGpuBatch ∈ batchesOf cfg request ∧ batch.handleIdx = request.handle := by
  unfold deviceBatches handleBatches
  rw [List.mem_flatMap]
  refine exists_congr fun request => and_congr_right fun _ => ?_
  rw [List.mem_map]
  constructor
  · rintro ⟨gpuBatch, hmem, rfl⟩
    exact ⟨hmem, rfl⟩
  · rintro ⟨hmem, hhandle⟩
    exact ⟨batch.toGpuBatch, hmem, by rw [← hhandle]⟩

/-- A piece is not empty and lies in its host chunk. -/
theorem batchesOf_bounds {cfg : StoreConfig} {numChunks : ℕ} {request : CopyChunk}
    (hend : request.offset + request.size ≤ numChunks * cfg.chunkSize) {batch : GpuBatch}
    (h : batch ∈ batchesOf cfg request) :
    0 < batch.size ∧ batch.chunkId < numChunks ∧
      batch.chunkOffset + batch.size ≤ cfg.chunkSize := by
  have hpos := cfg.chunkSize_pos
  obtain ⟨piece, hpiece, hchunk, hoffset, hsize⟩ := exists_of_mem_gpuBatches h
  obtain ⟨hnonempty, hinside, hbound⟩ := mapLoop_bounds (Nat.mod_lt _ hpos) hpiece
  rw [Nat.div_add_mod'] at hbound
  have hlt : piece.1 * cfg.chunkSize < numChunks * cfg.chunkSize := by omega
  rw [hchunk, hoffset, hsize]
  exact ⟨hnonempty, Nat.lt_of_mul_lt_mul_right hlt, hinside⟩

/-- The pieces in any order are right. -/
theorem reproduced_of_perm (hvalid : device.Valid host.image.length) {batches : List HandleBatch}
    (hperm : batches.Perm (deviceBatches host.cfg device)) :
    device.Reproduced host (batches ++ [.last]) := by
  have hmem : ∀ batch ∈ batches, ∃ request ∈ device.requests,
      batch.toGpuBatch ∈ batchesOf host.cfg request ∧ batch.handleIdx = request.handle :=
    fun batch hbatch => mem_deviceBatches.mp (hperm.subset hbatch)
  have hbounds : ∀ batch ∈ batches, 0 < batch.size ∧ batch.chunkId < host.numChunks ∧
      batch.chunkOffset + batch.size ≤ host.cfg.chunkSize := by
    intro batch hbatch
    obtain ⟨request, hrequest, hbatch, -⟩ := hmem batch hbatch
    exact batchesOf_bounds ((hvalid.inside request hrequest).trans host.length_le) hbatch
  have hcopy := fun devicePtrs handle => copyBatches_eq host.hostBuffers
    (fun batch hbatch => (hbounds batch hbatch).1) devicePtrs handle
  refine ⟨⟨batches, rfl, hbounds⟩, fun handle a => ?_, ?_, ?_⟩
  · rw [List.countP_append, hperm.countP_eq, deviceBatches,
      countP_deviceBatches host.cfg hvalid.disjoint]
    have hlast : ([HandleBatch.last].countP
        fun batch => batch.handleIdx = handle ∧ batch.Covers a) = 0 := by
      rw [List.countP_eq_zero]
      rintro batch hbatch
      obtain rfl := List.mem_singleton.mp hbatch
      have hnone : ¬ HandleBatch.last.Covers a := fun ⟨_, hlt⟩ => Nat.not_lt_zero a hlt
      simp [hnone]
    rw [hlast, Nat.add_zero]
  · intro devicePtrs request hrequest i hi
    have hinside := hvalid.inside request hrequest
    obtain ⟨-, hholds⟩ := host.holds (request.offset + i) (by omega)
    rw [hcopy, List.getElem?_eq_getElem (by omega), ← hholds]
    refine congrArg some (copyEach_apply _ _ _ _ _ ?_ ?_).symm
    · -- a piece that reaches the byte is one of this request
      intro batch hbatch hlo hhi
      obtain ⟨hbatch, hhandle⟩ := List.mem_filter.mp hbatch
      obtain ⟨request', hrequest', hbatch, hhandle'⟩ := hmem batch hbatch
      obtain ⟨hfrom, hto, hdiv, hmod⟩ := batchesOf_inside hbatch hlo hhi
      obtain rfl : request' = request := by
        by_contra hne
        refine hvalid.disjoint.forall hrequest' hrequest hne request.handle
          (request.deviceOffset + i) ⟨⟨?_, hfrom, hto⟩, rfl, by omega, by omega⟩
        rw [← hhandle']
        exact of_decide_eq_true hhandle
      rw [← hmod, ← hdiv, Nat.add_sub_cancel_left]
    · have hcover : ∃ batch ∈ batchesOf host.cfg request, batch.Covers (request.deviceOffset + i) :=
        batchesOf_cover (by omega) (by omega)
      obtain ⟨batch, hbatch, hcovers⟩ := hcover
      refine ⟨⟨batch, request.handle⟩, List.mem_filter.mpr ⟨?_, decide_eq_true rfl⟩, hcovers⟩
      exact hperm.symm.subset (mem_deviceBatches.mpr ⟨request, hrequest, hbatch, rfl⟩)
  · intro devicePtrs handle a hnone
    rw [hcopy]
    refine copyEach_outside _ _ _ _ _ fun batch hbatch => ?_
    obtain ⟨hbatch, hhandle⟩ := List.mem_filter.mp hbatch
    obtain ⟨request, hrequest, hbatch, hhandle'⟩ := hmem batch hbatch
    by_contra hin
    obtain ⟨hfrom, hto, -⟩ := batchesOf_inside hbatch (a := a) (by omega) (by omega)
    refine hnone request hrequest ⟨?_, hfrom, hto⟩
    rw [← hhandle']
    exact of_decide_eq_true hhandle

/-- **The devices get the image.**  Whatever the order in which the host chunks were read, every
device gets its queue, and the queue copies the requested bytes, each once. -/
theorem deviceCopies_reproduce {δ : Type} [DecidableEq δ] {requests : OrderedDict δ DeviceRequests}
    (hvalid : ∀ deviceId device, requests.get? deviceId = some device →
      device.Valid host.image.length)
    {dequeued : List ℕ} (hdequeued : dequeued.Perm (List.range host.numChunks)) :
    ∃ queues,
      dispatchToGpu host.cfg.chunkSize host.numChunks requests dequeued = some queues ∧
        ∀ deviceId device, requests.get? deviceId = some device →
          device.Reproduced host (queues deviceId) := by
  have hmem : ∀ chunkId, chunkId ∈ dequeued ↔ chunkId < host.numChunks := by
    intro chunkId
    rw [hdequeued.mem_iff, List.mem_range]
  have hfits : ∀ deviceId device, requests.get? deviceId = some device →
      ∀ request ∈ device.requests, request.handle < device.numHandles ∧
        request.offset + request.size ≤ host.numChunks * host.cfg.chunkSize := by
    intro deviceId device hdevice request hrequest
    have hdevice := hvalid deviceId device hdevice
    exact ⟨hdevice.handle_lt request hrequest,
      (hdevice.inside request hrequest).trans host.length_le⟩
  obtain ⟨queues, hqueues, heq⟩ := dispatchToGpu_eq host.numChunks_lt hfits
    fun chunkId hchunk => (hmem chunkId).mp hchunk
  refine ⟨queues, hqueues, fun deviceId device hdevice => ?_⟩
  rw [heq deviceId device hdevice]
  refine reproduced_of_perm (hvalid deviceId device hdevice) ?_
  refine Segments.perm_flatMap_filter _ (hdequeued.nodup_iff.mpr List.nodup_range) ?_
  intro batch hbatch
  obtain ⟨request, hrequest, hbatch, -⟩ := mem_deviceBatches.mp hbatch
  have hend := ((hvalid deviceId device hdevice).inside request hrequest).trans host.length_le
  exact (hmem _).mpr (batchesOf_bounds hend hbatch).2.1

/-- Two host chunks of four bytes, with six bytes in them. -/
def HostImage.sixBytes : HostImage (Fin 2) where
  cfg := ⟨4, 1, Nat.succ_pos _, Nat.one_pos⟩
  pool := .new (List.finRange 2) 4 (by decide) (by decide) (by decide)
  chunkSize_eq := rfl
  order := .plain _
  size := 6
  image := [10, 11, 12, 13, 14, 15]
  hostBuffers chunk i := (([10, 11, 12, 13, 14, 15] : List Byte)[chunk * 4 + i]?).getD 0
  holds := by decide

/-- The second chunk is read first, and a request that crosses the border is cut. -/
theorem deviceCopies_reproduce_sixBytes :
    let requests : OrderedDict (Fin 1) DeviceRequests :=
      .set .empty 0 ⟨1, [⟨2, 4, 0, 0⟩, ⟨0, 2, 4, 0⟩]⟩
    ∃ queues, dispatchToGpu 4 HostImage.sixBytes.numChunks requests [1, 0] = some queues ∧
      ∀ deviceId device, requests.get? deviceId = some device →
        device.Reproduced HostImage.sixBytes (queues deviceId) := by
  intro requests
  have hvalid : ∀ deviceId device, requests.get? deviceId = some device →
      device.Valid HostImage.sixBytes.image.length := by
    intro deviceId device hdevice
    obtain rfl : deviceId = 0 := Subsingleton.elim _ _
    obtain rfl : device = ⟨1, [⟨2, 4, 0, 0⟩, ⟨0, 2, 4, 0⟩]⟩ := (Option.some_inj.mp hdevice).symm
    refine ⟨by decide, by decide, List.pairwise_pair.mpr ?_⟩
    rintro handle a ⟨⟨-, hlo, hhi⟩, -, hlo', hhi'⟩
    dsimp only at hhi hlo'
    omega
  exact deviceCopies_reproduce hvalid (by decide)

end Reproduced

end Store
end SpotServe
