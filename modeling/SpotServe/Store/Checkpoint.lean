import SpotServe.Store.HostLoad

/-!
# Saving and loading a state dict

`save_dict` and `load_dict` (`sllm_store/torch.py`), with `SaveTensors` and `RestoreTensors`
(`csrc/checkpoint/checkpoint.cpp`) behind them.  A tensor is a strided view of a storage, and a
storage is known by its address; what the storages hold is a function of address and position, so
that tensors which share a storage share its bytes.
-/

namespace SpotServe
namespace Store

open Py Packing

/-! ## Tensors -/

/-- `torch.dtype` -/
inductive DType where
  | float16 | float32 | float64 | bfloat16
  | int8 | int16 | int32 | int64
  | uint8 | uint16 | uint32 | uint64
  | bool
  | complex32 | complex64 | complex128
  | float8E4m3fn | float8E4m3fnuz | float8E5m2 | float8E5m2fnuz | float8E8m0fnu
  deriving DecidableEq, Repr

/-- `dtype.itemsize` -/
def DType.itemsize : DType → ℕ
  | .int8 | .uint8 | .bool => 1
  | .float8E4m3fn | .float8E4m3fnuz | .float8E5m2 | .float8E5m2fnuz | .float8E8m0fnu => 1
  | .float16 | .bfloat16 | .int16 | .uint16 => 2
  | .float32 | .int32 | .uint32 | .complex32 => 4
  | .float64 | .int64 | .uint64 | .complex64 => 8
  | .complex128 => 16

/-- `str(dtype)` -/
def DType.str : DType → String
  | .float16 => "torch.float16"
  | .float32 => "torch.float32"
  | .float64 => "torch.float64"
  | .bfloat16 => "torch.bfloat16"
  | .int8 => "torch.int8"
  | .int16 => "torch.int16"
  | .int32 => "torch.int32"
  | .int64 => "torch.int64"
  | .uint8 => "torch.uint8"
  | .uint16 => "torch.uint16"
  | .uint32 => "torch.uint32"
  | .uint64 => "torch.uint64"
  | .bool => "torch.bool"
  | .complex32 => "torch.complex32"
  | .complex64 => "torch.complex64"
  | .complex128 => "torch.complex128"
  | .float8E4m3fn => "torch.float8_e4m3fn"
  | .float8E4m3fnuz => "torch.float8_e4m3fnuz"
  | .float8E5m2 => "torch.float8_e5m2"
  | .float8E5m2fnuz => "torch.float8_e5m2fnuz"
  | .float8E8m0fnu => "torch.float8_e8m0fnu"

/-- The table of `stringToScalarType`. -/
def dtypeMap : List (String × DType) :=
  [("torch.float16", .float16), ("torch.float32", .float32), ("torch.float64", .float64),
    ("torch.int16", .int16), ("torch.int32", .int32), ("torch.int64", .int64),
    ("torch.uint8", .uint8), ("torch.int8", .int8), ("torch.bfloat16", .bfloat16)]

/-- A dtype that `stringToScalarType` knows. -/
def DType.Supported (dtype : DType) : Prop := dtype ∈ dtypeMap.map Prod.snd

instance (dtype : DType) : Decidable dtype.Supported :=
  inferInstanceAs (Decidable (_ ∈ _))

theorem DType.itemsize_pos (dtype : DType) : 0 < dtype.itemsize := by
  cases dtype <;> decide

/-- The names in the table are those of the dtypes next to them. -/
theorem lookup_dtypeMap (dtype : DType) :
    dtypeMap.lookup dtype.str = if dtype.Supported then some dtype else none := by
  cases dtype <;> decide +kernel

/-- A tensor, as far as it is saved: the address and the size of its storage, and how it views it.
Tensors may come with one address and different sizes, when they were made from foreign memory. -/
structure Tensor where
  dataPtr : ℕ
  storageSize : ℕ
  storageOffset : ℕ
  shape : List ℕ
  stride : List ℕ
  dtype : DType
  deriving DecidableEq, Repr

/-- The distance of an element from the first one, in elements. -/
def elementOffset (stride index : List ℕ) : ℕ := (List.zipWith (· * ·) index stride).sum

/-- The indices of a tensor of that shape. -/
def IsIndex (shape index : List ℕ) : Prop := List.Forall₂ (· < ·) index shape

/-- The bytes of an element. -/
def Tensor.element (t : Tensor) (memory : ℕ → ℕ → Byte) (index : List ℕ) : List Byte :=
  slice (memory t.dataPtr)
    ((t.storageOffset + elementOffset t.stride index) * t.dtype.itemsize) t.dtype.itemsize

/-- A state dict: every element of a tensor lies in its storage. -/
structure StateDict where
  tensors : OrderedDict String Tensor
  inStorage : ∀ name t, tensors.get? name = some t → ∀ index, IsIndex t.shape index →
    (t.storageOffset + elementOffset t.stride index + 1) * t.dtype.itemsize ≤ t.storageSize

/-- The address of the storage of a tensor. -/
def StateDict.addressOf (sd : StateDict) (name : String) : ℕ :=
  ((sd.tensors.get? name).map Tensor.dataPtr).getD 0

/-- The addresses of the storages, in the order of the tensors. -/
def StateDict.addresses (sd : StateDict) : List ℕ := sd.tensors.keys.map sd.addressOf

/-- The size of the storage of a tensor. -/
def StateDict.storageSizeOf (sd : StateDict) (name : String) : ℕ :=
  ((sd.tensors.get? name).map Tensor.storageSize).getD 0

/-- How much of the memory at an address is written: the size that its first tensor gives it. -/
def StateDict.writtenSize (sd : StateDict) : ℕ → ℕ :=
  firstSize sd.addressOf sd.storageSizeOf sd.tensors.keys

/-- The partitions that the storages of a state dict fill. -/
def StateDict.partitions (maxSize : ℕ) (sd : StateDict) : List ℕ :=
  partitionSizes maxSize sd.writtenSize sd.addresses

/-! ## `save_dict` -/

/-- A value of `tensor_index.json`. -/
structure TensorEntry where
  record : Record
  shape : List ℕ
  stride : List ℕ
  dtype : String
  deriving DecidableEq, Repr

/-- What a model directory holds. -/
structure Checkpoint where
  files : List (List Byte)
  tensorIndex : OrderedDict String TensorEntry

/-- `tensor_data_index` -/
def StateDict.tensorDataIndex (sd : StateDict) : OrderedDict String (ℕ × ℕ) :=
  sd.tensors.mapValues fun _ t => (t.dataPtr, t.storageSize)

/-- `save_dict`, into a directory that holds partition files: those that are not opened stay. -/
def saveDict (maxSize : ℕ) (existing : List (List Byte)) (garbage memory : ℕ → ℕ → Byte)
    (sd : StateDict) : Checkpoint :=
  let (tensorOffsets, files) :=
    saveTensors maxSize existing garbage memory sd.tensorDataIndex sd.tensors.keys
  { files := files ++ existing.drop files.length
    tensorIndex := sd.tensors.mapValues fun name t =>
      { record := ⟨(tensorOffsets.get? name).getD 0, t.storageSize⟩
        shape := t.shape
        stride := t.stride
        dtype := t.dtype.str } }

/-! ## `load_dict` -/

/-- What keeps `load_dict` from returning. -/
inductive LoadError where
  /-- The key `""` next to other keys. -/
  | invalidDeviceMap
  | layout (error : LayoutError)
  | hostLoadFailed
  /-- The pool counts its buffers in an `int`. -/
  | tooManyChunks
  /-- The server refuses to copy nothing, and the client waits. -/
  | noCopyChunks
  /-- `DispatchToGpu` reaches past the table of the host chunks. -/
  | chunkOutOfRange
  | unknownDtype (dtype : String)
  deriving DecidableEq, Repr

/-- A tensor of the returned state dict: a view of the memory of a device. -/
structure RestoredTensor (δ : Type*) where
  device : δ
  address : ℕ
  shape : List ℕ
  stride : List ℕ
  dtype : DType

/-- The bytes of an element. -/
def RestoredTensor.element {δ : Type*} (r : RestoredTensor δ) (devices : δ → ℕ → Byte)
    (index : List ℕ) : List Byte :=
  slice (devices r.device) (r.address + elementOffset r.stride index * r.dtype.itemsize)
    r.dtype.itemsize

section Load

variable {δ : Type*} [DecidableEq δ]

/-- One key of the device map for all names that start with it. -/
def expandKey (tensorNames : List String) (key : String) (device : δ) (expanded : DeviceMap δ) :
    DeviceMap δ :=
  tensorNames.foldl (fun expanded name =>
    if key.toList.isPrefixOf name.toList then expanded.set name device else expanded) expanded

/-- The loop of `_expand_tensor_name`; the key `""` ends it. -/
def expandEntries (tensorNames : List String) : List (String × δ) → DeviceMap δ → DeviceMap δ
  | [], expanded => expanded
  | (key, device) :: rest, expanded =>
    if key = "" then tensorNames.foldl (fun expanded name => expanded.set name device) .empty
    else expandEntries tensorNames rest (expandKey tensorNames key device expanded)

/-- A device map that `_expand_tensor_name` accepts. -/
def DefaultAlone (deviceMap : DeviceMap δ) : Prop :=
  "" ∈ deviceMap.keys → deviceMap.keys.length = 1

instance (deviceMap : DeviceMap δ) : Decidable (DefaultAlone deviceMap) :=
  inferInstanceAs (Decidable (_ → _))

/-- `_expand_tensor_name` -/
def expandTensorName (deviceMap : DeviceMap δ) (tensorNames : List String) :
    Except LoadError (DeviceMap δ) :=
  if DefaultAlone deviceMap then .ok (expandEntries tensorNames deviceMap.entries .empty)
  else .error .invalidDeviceMap

/-- The loop body of `RestoreTensors`. -/
def restoreStep (tensorIndex : OrderedDict String TensorEntry)
    (stateDict : OrderedDict String (RestoredTensor δ)) (item : δ × String × ℕ) :
    Except LoadError (OrderedDict String (RestoredTensor δ)) :=
  match tensorIndex.get? item.2.1 with
  | none => .error (.layout (.tensorNotFound item.2.1))
  | some entry =>
    match dtypeMap.lookup entry.dtype with
    | none => .error (.unknownDtype entry.dtype)
    | some dtype =>
      .ok (stateDict.set item.2.1 ⟨item.1, item.2.2, entry.shape, entry.stride, dtype⟩)

/-- The names of all devices with their offsets. -/
def offsetItems (offsets : OrderedDict δ (OrderedDict String ℕ)) : List (δ × String × ℕ) :=
  offsets.entries.flatMap fun (device, names) =>
    names.entries.map fun (name, offset) => (device, name, offset)

/-- `RestoreTensors` -/
def restoreTensors (tensorIndex : OrderedDict String TensorEntry)
    (offsets : OrderedDict δ (OrderedDict String ℕ)) :
    Except LoadError (OrderedDict String (RestoredTensor δ)) :=
  (offsetItems offsets).foldlM (restoreStep tensorIndex) .empty

/-- All pieces of the copy chunks have an entry in the table of `DispatchToGpu`. -/
def DispatchInside (cfg : StoreConfig) (numChunks : ℕ) (chunks : OrderedDict δ (List CopyChunk)) :
    Prop :=
  ∀ entry ∈ chunks.entries, ∀ chunk ∈ entry.2, ∀ batch ∈ batchesOf cfg chunk,
    batch.chunkId < numChunks

instance (cfg : StoreConfig) (numChunks : ℕ) (chunks : OrderedDict δ (List CopyChunk)) :
    Decidable (DispatchInside cfg numChunks chunks) :=
  inferInstanceAs (Decidable (∀ entry ∈ chunks.entries, _))

/-- `load_dict`: the state dict and the memories of the devices.  `stale` is what the pinned memory
held before, and `initial` what the devices did. -/
def loadDict (cfg : StoreConfig) (stale : ℕ → ℕ → Byte) (initial : δ → ℕ → Byte)
    (checkpoint : Checkpoint) (deviceMap : DeviceMap δ) :
    Except LoadError (OrderedDict String (RestoredTensor δ) × (δ → ℕ → Byte)) := do
  let tensorDataIndex := checkpoint.tensorIndex.mapValues fun _ entry => entry.record
  let expanded ← expandTensorName deviceMap checkpoint.tensorIndex.keys
  let _ ← (calculateDeviceMemory expanded tensorDataIndex).mapError LoadError.layout
  let (offsets, chunks) ←
    (calculateTensorDeviceOffsets expanded tensorDataIndex).mapError LoadError.layout
  let numChunks := cfg.numChunks checkpoint.files.flatten.length
  if 2 ^ 31 ≤ numChunks then .error .tooManyChunks
  else
    match toHost cfg checkpoint.files with
    | none => .error .hostLoadFailed
    | some loaded =>
      if chunks.keys = [] then .error .noCopyChunks
      else if ¬ DispatchInside cfg numChunks chunks then .error .chunkOutOfRange
      else
        let restored ← restoreTensors checkpoint.tensorIndex offsets
        .ok (restored, fun device =>
          toGpu cfg (hostBuffer stale loaded) numChunks (chunksOf chunks device) (initial device))

end Load

end Store
end SpotServe
