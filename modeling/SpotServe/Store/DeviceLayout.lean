import SpotServe.Library.OrderedDict
import SpotServe.Library.Packing

/-!
# Where the tensors of a checkpoint go on the devices

`sllm_store/utils.py` computes two things from a device map and a tensor index: how much memory
each device needs, and at which device offset each tensor starts, together with the chunks to
copy.  Several names may share one record of the checkpoint; both functions remember the records
they have seen in one dictionary for all devices.

* `calculateDeviceMemory`, `calculateTensorDeviceOffsets`: the two functions, as folds over the
  entries of the device map.
* `executeCopyChunks`: what the chunks of a device do to its memory.
-/

namespace SpotServe
namespace Store

open Py

/-- A record of the checkpoint image: the value `(offset, size)` of a tensor index. -/
structure Record where
  offset : ℕ
  size : ℕ
  deriving DecidableEq, Repr

/-- Tensor name to record. -/
abbrev TensorIndex := OrderedDict String Record

/-- Tensor name to device. -/
abbrev DeviceMap (δ : Type*) := OrderedDict String δ

/-- The error of both functions: a name of the device map that the index does not know. -/
inductive LayoutError where
  | tensorNotFound (name : String)
  deriving DecidableEq, Repr

/-- The text of the `ValueError`. -/
def LayoutError.message : LayoutError → String
  | .tensorNotFound name => "Tensor " ++ name ++ " not found in tensor_index."

/-- A copy chunk `(offset, size, device_offset, 0)`: the last component is the handle index. -/
structure CopyChunk where
  offset : ℕ
  size : ℕ
  deviceOffset : ℕ
  handle : ℕ
  deriving DecidableEq, Repr

section Functions

variable {δ : Type*} [DecidableEq δ]

/-! ## `calculate_device_memory` -/

/-- The local variables of `calculate_device_memory`. -/
structure MemoryState (δ : Type*) where
  deviceMemory : OrderedDict δ ℕ
  tensorRecord : OrderedDict Record Bool

/-- The loop body of `calculate_device_memory`. -/
def deviceMemoryStep (tensorIndex : TensorIndex) (st : MemoryState δ) (item : String × δ) :
    Except LayoutError (MemoryState δ) :=
  match tensorIndex.get? item.1 with
  | none => .error (.tensorNotFound item.1)
  | some record =>
    let deviceMemory :=
      if item.2 ∈ st.deviceMemory.keys then st.deviceMemory else st.deviceMemory.set item.2 0
    if record ∈ st.tensorRecord.keys then .ok { st with deviceMemory }
    else
      .ok {
        deviceMemory :=
          deviceMemory.set item.2 ((deviceMemory.get? item.2).getD 0 + record.size)
        tensorRecord := st.tensorRecord.set record true }

/-- `calculate_device_memory`. -/
def calculateDeviceMemory (deviceMap : DeviceMap δ) (tensorIndex : TensorIndex) :
    Except LayoutError (OrderedDict δ ℕ) :=
  (deviceMap.entries.foldlM (deviceMemoryStep tensorIndex) ⟨.empty, .empty⟩).map
    MemoryState.deviceMemory

/-! ## `calculate_tensor_device_offsets` -/

/-- The local variables of `calculate_tensor_device_offsets`. -/
structure OffsetState (δ : Type*) where
  tensorDeviceOffsets : OrderedDict δ (OrderedDict String ℕ)
  tensorCopyChunks : OrderedDict δ (List CopyChunk)
  deviceOffset : OrderedDict δ ℕ
  tensorRecord : OrderedDict Record ℕ

/-- The three per-device dictionaries get an entry when the device is first seen. -/
def OffsetState.openDevice (st : OffsetState δ) (device : δ) : OffsetState δ :=
  if device ∈ st.tensorDeviceOffsets.keys then st
  else
    { st with
      tensorDeviceOffsets := st.tensorDeviceOffsets.set device .empty
      tensorCopyChunks := st.tensorCopyChunks.set device []
      deviceOffset := st.deviceOffset.set device 0 }

/-- `tensor_device_offsets[device][tensor_name] = offset`. -/
def OffsetState.setOffset (st : OffsetState δ) (device : δ) (name : String) (offset : ℕ) :
    OffsetState δ :=
  { st with
    tensorDeviceOffsets := st.tensorDeviceOffsets.set device
      (((st.tensorDeviceOffsets.get? device).getD .empty).set name offset) }

/-- The branch for a record seen for the first time: it is placed at the end of the device. -/
def OffsetState.placeRecord (st : OffsetState δ) (device : δ) (record : Record) :
    OffsetState δ :=
  let start := (st.deviceOffset.get? device).getD 0
  { st with
    tensorRecord := st.tensorRecord.set record start
    tensorCopyChunks := st.tensorCopyChunks.set device
      ((st.tensorCopyChunks.get? device).getD [] ++ [⟨record.offset, record.size, start, 0⟩])
    deviceOffset := st.deviceOffset.set device (start + record.size) }

/-- The loop body of `calculate_tensor_device_offsets`. -/
def deviceOffsetsStep (tensorIndex : TensorIndex) (st : OffsetState δ) (item : String × δ) :
    Except LayoutError (OffsetState δ) :=
  let opened := st.openDevice item.2
  match tensorIndex.get? item.1 with
  | none => .error (.tensorNotFound item.1)
  | some record =>
    match opened.tensorRecord.get? record with
    | some offset => .ok (opened.setOffset item.2 item.1 offset)
    | none =>
      .ok ((opened.placeRecord item.2 record).setOffset item.2 item.1
        ((opened.deviceOffset.get? item.2).getD 0))

/-- `calculate_tensor_device_offsets`. -/
def calculateTensorDeviceOffsets (deviceMap : DeviceMap δ) (tensorIndex : TensorIndex) :
    Except LayoutError
      (OrderedDict δ (OrderedDict String ℕ) × OrderedDict δ (List CopyChunk)) :=
  (deviceMap.entries.foldlM (deviceOffsetsStep tensorIndex) ⟨.empty, .empty, .empty, .empty⟩).map
    fun st => (st.tensorDeviceOffsets, st.tensorCopyChunks)

/-- `tensor_device_offsets[device][tensor_name]`. -/
def lookupOffset (offsets : OrderedDict δ (OrderedDict String ℕ)) (device : δ) (name : String) :
    Option ℕ :=
  (offsets.get? device).bind fun names => names.get? name

/-- The chunks of a device; a device that was never named has none. -/
def chunksOf (chunks : OrderedDict δ (List CopyChunk)) (device : δ) : List CopyChunk :=
  (chunks.get? device).getD []

/-- The memory of a device after its copy chunks have been executed from the checkpoint image. -/
def executeCopyChunks {B : Type*} (image : ℕ → B) (chunks : List CopyChunk) (memory : ℕ → B) :
    ℕ → B :=
  Packing.copyAll CopyChunk.offset CopyChunk.size CopyChunk.deviceOffset image chunks memory

end Functions

end Store
end SpotServe
