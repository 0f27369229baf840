import SpotServe.Store.HostLoad
import SpotServe.Store.PinnedMemoryPool

/-!
# The dispatch to the devices, with handles and `int`s

`Model::DispatchToGpu` (`csrc/sllm_store/model.cpp`) cuts the copy requests of every device at the
borders of the host chunks, files the pieces by host chunk, and hands them to the queue of their
device as the host chunks come in.  A device has several memory handles, and the offset in each of
them runs along while a request is cut.  `Model::ToGpu` has one thread a device that takes the
pieces out of the queue and copies them, up to the first one of size zero.

Chunk numbers are `int`s in `MapDataToChunks` and `size_t`s elsewhere.  What C++ leaves undefined,
an `int` that overflows and an index beyond a vector, is `none` here.
-/

namespace SpotServe
namespace Store

open Py

/-- The copy requests of a device, and the number of its memory handles. -/
structure DeviceRequests where
  numHandles : ℕ
  requests : List CopyChunk

/-- `GpuChunk`: a piece, filed under its host chunk. -/
structure GpuChunk (δ : Type*) where
  deviceId : δ
  chunkOffset : ℕ
  size : ℕ
  gpuOffset : ℕ
  handleIdx : ℕ

/-- A `GpuBatch` with its handle. -/
structure HandleBatch extends GpuBatch where
  handleIdx : ℕ
  deriving DecidableEq, Repr

/-- `GpuBatch{}`, which ends a queue. -/
def HandleBatch.last : HandleBatch := ⟨⟨0, 0, 0, 0⟩, 0⟩

/-! ## `Model::MapDataToChunks` -/

/-- The loop over the chunk numbers; `fuel` bounds its turns. -/
def mapIntLoop (chunkSize : ℕ) (startChunk : ℤ) (offsetInStartChunk : ℕ) :
    ℕ → ℤ → ℕ → Option (List (ℤ × ℕ × ℕ))
  | 0, _, _ => some []
  | fuel + 1, chunkId, remainingData =>
    if remainingData = 0 then some []
    else
      let chunkDataSize :=
        if chunkId = startChunk then min (chunkSize - offsetInStartChunk) remainingData
        else min chunkSize remainingData
      let chunkOffset := if chunkId = startChunk then offsetInStartChunk else 0
      -- `++chunk_id`
      if chunkId + 1 < 2 ^ 31 then
        (mapIntLoop chunkSize startChunk offsetInStartChunk fuel (chunkId + 1)
          (remainingData - chunkDataSize)).map ((chunkId, chunkOffset, chunkDataSize) :: ·)
      else none

/-- `Model::MapDataToChunks`: each turn takes at least one byte. -/
def mapDataToIntChunks (offset size chunkSize : ℕ) : Option (List (ℤ × ℕ × ℕ)) :=
  let startChunk := toInt (offset / chunkSize)
  mapIntLoop chunkSize startChunk (offset % chunkSize) size startChunk size

/-! ## `Model::DispatchToGpu` -/

section Dispatch

variable {δ : Type*}

/-- The local variables of the loop over the requests of a device. -/
structure RequestState (δ : Type*) where
  handleOffsets : List ℕ
  chunkIdToGpuChunks : List (List (GpuChunk δ))

/-- A piece goes to its host chunk, and the offset of the handle moves on. -/
def pushPiece (deviceId : δ) (handleIdx : ℕ) (st : RequestState δ) (piece : ℤ × ℕ × ℕ) :
    Option (RequestState δ) :=
  let (chunkId, chunkOffset, size) := piece
  match st.handleOffsets[handleIdx]? with
  | none => none
  | some gpuOffset =>
    if 0 ≤ chunkId ∧ chunkId.toNat < st.chunkIdToGpuChunks.length then
      some {
        handleOffsets := st.handleOffsets.set handleIdx (gpuOffset + size)
        chunkIdToGpuChunks := st.chunkIdToGpuChunks.modify chunkId.toNat
          (· ++ [⟨deviceId, chunkOffset, size, gpuOffset, handleIdx⟩]) }
    else none

/-- One request. -/
def pushRequest (chunkSize : ℕ) (deviceId : δ) (st : RequestState δ) (request : CopyChunk) :
    Option (RequestState δ) :=
  if request.handle < st.handleOffsets.length then
    (mapDataToIntChunks request.offset request.size chunkSize).bind fun pieces =>
      pieces.foldlM (pushPiece deviceId request.handle)
        { st with handleOffsets := st.handleOffsets.set request.handle request.deviceOffset }
  else none

/-- The requests of a device. -/
def pushDevice (chunkSize : ℕ) (chunkIdToGpuChunks : List (List (GpuChunk δ)))
    (device : δ × DeviceRequests) : Option (List (List (GpuChunk δ))) :=
  (device.2.requests.foldlM (pushRequest chunkSize device.1)
    ⟨List.replicate device.2.numHandles 0, chunkIdToGpuChunks⟩).map
      RequestState.chunkIdToGpuChunks

variable [DecidableEq δ]

/-- What a host chunk brings to the queue of a device. -/
def enqueueChunk (deviceId : δ) (chunkId : ℕ) (gpuChunks : List (GpuChunk δ)) :
    List HandleBatch :=
  (gpuChunks.filter fun chunk => chunk.deviceId = deviceId).map fun chunk =>
    ⟨⟨chunkId, chunk.chunkOffset, chunk.size, chunk.gpuOffset⟩, chunk.handleIdx⟩

/-- `Model::DispatchToGpu`: the queue of each device.  The requests come in the order of the hash
map, and the host chunks in the order in which they have been read. -/
def dispatchToGpu (chunkSize numChunks : ℕ) (memCopyChunks : OrderedDict δ DeviceRequests)
    (dequeued : List ℕ) : Option (δ → List HandleBatch) := do
  let chunkIdToGpuChunks ←
    memCopyChunks.entries.foldlM (pushDevice chunkSize) (List.replicate numChunks [])
  let read ← dequeued.mapM fun chunkId =>
    (chunkIdToGpuChunks[chunkId]?).map fun gpuChunks => (chunkId, gpuChunks)
  some fun deviceId => (read.flatMap fun chunk => enqueueChunk deviceId chunk.1 chunk.2) ++ [.last]

end Dispatch

/-! ## The copying thread of `Model::ToGpu` -/

/-- The loop of a device; `devicePtrs` is what its handles point to. -/
def copyBatches (hostBuffers : ℕ → ℕ → Byte) : List HandleBatch → (ℕ → ℕ → Byte) → ℕ → ℕ → Byte
  | [], devicePtrs => devicePtrs
  | batch :: batches, devicePtrs =>
    if batch.size = 0 then devicePtrs
    else
      copyBatches hostBuffers batches
        (Function.update devicePtrs batch.handleIdx
          (Packing.copyRange (hostBuffers batch.chunkId) batch.chunkOffset batch.size
            batch.gpuOffset (devicePtrs batch.handleIdx)))

end Store
end SpotServe
