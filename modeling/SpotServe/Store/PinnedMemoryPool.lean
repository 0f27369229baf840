import SpotServe.Library.OrderedDict

/-!
# The pinned memory pool

`PinnedMemoryPool` (`csrc/sllm_store/pinned_memory_pool.cpp`) owns buffers of one size and keeps
those that are free in a set.  A `PinnedMemory` takes buffers out of it for a model, and its
destructor puts them back.

Sizes are `size_t` and counts of buffers are `int`, so `toSize` and `toInt` stand where the source
converts.  The sets are lists without repetition; in which order a set is gone through is left to
the `IterationOrder` of each call.
-/

namespace SpotServe
namespace Store

open Py

/-- `size_t` -/
abbrev SizeT := Fin (2 ^ 64)

/-- A `size_t` as an `int`. -/
def toInt (n : ℕ) : ℤ :=
  if n % 2 ^ 32 < 2 ^ 31 then (n % 2 ^ 32 : ℕ) else (n % 2 ^ 32 : ℕ) - 2 ^ 32

/-- An `int` as a `size_t`. -/
def toSize (i : ℤ) : ℕ := (i % 2 ^ 64).toNat

theorem toInt_of_lt {n : ℕ} (h : n < 2 ^ 31) : toInt n = n := by
  unfold toInt
  split_ifs <;> omega

theorem toSize_toInt (n : ℕ) : toSize (toInt n) =
    if n % 2 ^ 32 < 2 ^ 31 then n % 2 ^ 32 else 2 ^ 64 - 2 ^ 32 + n % 2 ^ 32 := by
  unfold toSize toInt
  split_ifs <;> omega

/-- The buffers needed for a size, rounded up in 64 bits and kept in 32. -/
def buffersNeeded (chunkSize size : ℕ) : ℤ :=
  toInt ((size + chunkSize - 1) % 2 ^ 64 / chunkSize)

theorem buffersNeeded_of_le {chunkSize size : ℕ} (h : size + chunkSize ≤ 2 ^ 64) :
    buffersNeeded chunkSize size = toInt ((size + chunkSize - 1) / chunkSize) := by
  rw [buffersNeeded, Nat.mod_eq_of_lt (by omega)]

/-- `PinnedMemoryPool::Allocate` in numbers: what it returns when so many buffers are free, and how
many it hands out. -/
def allocateCount (chunkSize free size : ℕ) : ℤ × ℕ :=
  if size = 0 then (-1, 0)
  else
    let needed := toSize (buffersNeeded chunkSize size)
    if free < needed then (toInt (needed - free), 0) else (0, needed)

/-- `PinnedMemoryPool` -/
structure PinnedMemoryPool (β : Type) where
  pool : List β
  freeList : List β
  chunkSize : SizeT
  nodup : pool.Nodup
  free_sub : freeList.Subperm pool
  /-- The constructor divides by it. -/
  chunkSize_pos : 0 < (chunkSize : ℕ)
  /-- The addresses of the buffers are multiples of 4096. -/
  length_le : pool.length ≤ 2 ^ 52

/-- The order in which a set is gone through. -/
structure IterationOrder (β : Type) where
  list : List β → List β
  perm : ∀ set, (list set).Perm set

/-- The order of the list. -/
def IterationOrder.plain (β : Type) : IterationOrder β := ⟨id, fun _ => .rfl⟩

namespace PinnedMemoryPool

variable {β : Type}

/-- The pool after construction. -/
def new (buffers : List β) (chunkSize : SizeT) (nodup : buffers.Nodup)
    (pos : 0 < (chunkSize : ℕ)) (length_le : buffers.length ≤ 2 ^ 52) : PinnedMemoryPool β :=
  ⟨buffers, buffers, chunkSize, nodup, .refl _, pos, length_le⟩

/-- `num_buffers_needed` -/
def numBuffersNeeded (p : PinnedMemoryPool β) (size : SizeT) : ℤ :=
  buffersNeeded p.chunkSize size

/-- `PinnedMemoryPool::Allocate`: what it returns, the buffers, and the pool. -/
def allocate (p : PinnedMemoryPool β) (order : IterationOrder β) (size : SizeT) :
    ℤ × List β × PinnedMemoryPool β :=
  if (size : ℕ) = 0 then (-1, [], p)
  else
    let needed := toSize (p.numBuffersNeeded size)
    if p.freeList.length < needed then (toInt (needed - p.freeList.length), [], p)
    else
      (0, (order.list p.freeList).take needed,
        { p with
          freeList := (order.list p.freeList).drop needed
          free_sub := ((List.drop_sublist _ _).subperm.trans (order.perm _).subperm).trans
            p.free_sub })

/-- The numbers of an allocation. -/
theorem allocate_counts (p : PinnedMemoryPool β) (order : IterationOrder β) (size : SizeT) :
    let allocated := p.allocate order size
    let counted := allocateCount p.chunkSize p.freeList.length size
    allocated.1 = counted.1 ∧ allocated.2.1.length = counted.2 ∧
      allocated.2.2.freeList.length = p.freeList.length - counted.2 := by
  have hlength : (order.list p.freeList).length = p.freeList.length := (order.perm _).length_eq
  unfold allocate allocateCount numBuffersNeeded
  dsimp only
  split_ifs with hzero hmissing
  · exact ⟨rfl, rfl, rfl⟩
  · exact ⟨rfl, rfl, rfl⟩
  · refine ⟨rfl, ?_, ?_⟩
    · rw [List.length_take, hlength]
      omega
    · rw [List.length_drop, hlength]

variable [DecidableEq β]

/-- `PinnedMemoryPool::Deallocate`: what it returns, and the pool. -/
def deallocate (p : PinnedMemoryPool β) : List β → ℤ × PinnedMemoryPool β
  | [] => (0, p)
  | buffer :: rest =>
    if hpool : buffer ∉ p.pool then (-1, p)
    else if hfree : buffer ∈ p.freeList then (-1, p)
    else deallocate
      { p with
        freeList := buffer :: p.freeList
        free_sub := List.cons_subperm_of_not_mem_of_mem hfree (not_not.mp hpool) p.free_sub } rest

end PinnedMemoryPool

/-- A pool with the `PinnedMemory` objects that use it, by their buffers. -/
structure PoolUse (β : Type) where
  mempool : PinnedMemoryPool β
  memories : OrderedDict ℕ (List β) := .empty

/-- A call. -/
inductive PoolCall (β : Type) where
  /-- `PinnedMemory::Allocate`, of a new object or one that failed before. -/
  | allocate (memory : ℕ) (size : SizeT) (order : IterationOrder β)
  /-- `PinnedMemory::~PinnedMemory` -/
  | release (memory : ℕ)

namespace PoolUse

variable {β : Type} [DecidableEq β] (s : PoolUse β)

/-- `buffers_` -/
def buffersOf (memory : ℕ) : List β := (s.memories.get? memory).getD []

/-- `PinnedMemory::Allocate` -/
def allocate (memory : ℕ) (size : SizeT) (order : IterationOrder β) : ℤ × PoolUse β :=
  if 0 < (s.buffersOf memory).length then (1, s)
  else
    let (ret, buffers, mempool) := s.mempool.allocate order size
    (ret, ⟨mempool, s.memories.set memory buffers⟩)

/-- `PinnedMemory::~PinnedMemory` -/
def release (memory : ℕ) : PoolUse β :=
  let (_, mempool) := s.mempool.deallocate (s.buffersOf memory)
  ⟨mempool, s.memories.erase memory⟩

/-- One call. -/
def step : PoolCall β → PoolUse β
  | .allocate memory size order => (s.allocate memory size order).2
  | .release memory => s.release memory

end PoolUse

end Store
end SpotServe
