import Mathlib.Algebra.Order.Group.Multiset
import Mathlib.Tactic.Abel
import SpotServe.Library.Runs
import SpotServe.Store.PinnedMemoryPool

/-!
# The pool neither loses nor shares buffers

Whatever is allocated and released, the free list and the buffers in use are the buffers of the
pool, each once (`Conserved`).  What an allocation returns is another matter: the number of buffers
it needs is computed in 64 bits and kept in 32, so a size may need more buffers than the count can
say.  `allocationOk_iff` is the exact condition on the size.

* `PinnedMemoryPool.deallocate_spec`: buffers that came from the pool go back to it.
* `Conserved.step`: one call.
* `pool_conserved`: every run.
-/

namespace SpotServe
namespace Store

open Py

namespace PinnedMemoryPool

variable {β : Type}

theorem nodup_freeList (p : PinnedMemoryPool β) : p.freeList.Nodup :=
  let ⟨_, hperm, hsub⟩ := p.free_sub
  hperm.nodup_iff.mp (p.nodup.sublist hsub)

/-- `ceil(size / chunk_size)` -/
def numChunks (p : PinnedMemoryPool β) (size : SizeT) : ℕ := (size + p.chunkSize - 1) / p.chunkSize

/-- The number of buffers that `Allocate` compares with the free ones is the right one, or is so
large that it does not fit either and the difference comes out right. -/
def ExactSize (p : PinnedMemoryPool β) (size : SizeT) : Prop :=
  (size : ℕ) = 0 ∨ (size + p.chunkSize : ℕ) ≤ 2 ^ 64 ∧
    (p.numChunks size < 2 ^ 31 ∨
      p.freeList.length < p.numChunks size ∧ 2 ^ 31 ≤ p.numChunks size % 2 ^ 32 ∧
        p.numChunks size - p.freeList.length < 2 ^ 31)

instance (p : PinnedMemoryPool β) (size : SizeT) : Decidable (p.ExactSize size) :=
  inferInstanceAs (Decidable (_ ∨ _))

/-! ## The count -/

theorem numBuffersNeeded_of_le {p : PinnedMemoryPool β} {size : SizeT}
    (h : (size + p.chunkSize : ℕ) ≤ 2 ^ 64) :
    p.numBuffersNeeded size = toInt (p.numChunks size) :=
  buffersNeeded_of_le h

/-- A sum that wraps leaves less than a chunk. -/
theorem numBuffersNeeded_of_lt {p : PinnedMemoryPool β} {size : SizeT}
    (h : 2 ^ 64 < (size + p.chunkSize : ℕ)) : p.numBuffersNeeded size = 0 := by
  have hsmall : (size + p.chunkSize - 1 : ℕ) % 2 ^ 64 < p.chunkSize := by
    have hlt := size.isLt
    have hlt' := p.chunkSize.isLt
    omega
  rw [numBuffersNeeded, buffersNeeded, Nat.div_eq_of_lt hsmall]
  rfl

theorem numChunks_pos {p : PinnedMemoryPool β} {size : SizeT} (hsize : 0 < (size : ℕ)) :
    0 < p.numChunks size :=
  Nat.div_pos (by omega) p.chunkSize_pos

theorem numChunks_zero {p : PinnedMemoryPool β} {size : SizeT} (hsize : (size : ℕ) = 0) :
    p.numChunks size = 0 := by
  have hpos := p.chunkSize_pos
  exact Nat.div_eq_of_lt (by omega)

/-! ## Taking buffers out -/

/-- What is allocated comes from the free list. -/
theorem allocate_perm (p : PinnedMemoryPool β) (order : IterationOrder β) (size : SizeT) :
    ((p.allocate order size).2.1 ++ (p.allocate order size).2.2.freeList).Perm p.freeList := by
  unfold allocate
  dsimp only
  split_ifs
  · exact .refl _
  · exact .refl _
  · rw [List.take_append_drop]
    exact order.perm _

theorem pool_allocate (p : PinnedMemoryPool β) (order : IterationOrder β) (size : SizeT) :
    (p.allocate order size).2.2.pool = p.pool := by
  unfold allocate
  dsimp only
  split_ifs <;> rfl

/-! ## Putting them back -/

variable [DecidableEq β]

/-- Buffers that are neither free nor foreign, none of them twice, all go back. -/
theorem deallocate_spec (p : PinnedMemoryPool β) {buffers : List β}
    (h : (buffers ++ p.freeList).Subperm p.pool) :
    (p.deallocate buffers).1 = 0 ∧ (p.deallocate buffers).2.pool = p.pool ∧
      (p.deallocate buffers).2.freeList.Perm (buffers ++ p.freeList) := by
  induction buffers generalizing p with
  | nil => exact ⟨rfl, rfl, .refl _⟩
  | cons buffer rest ih =>
    have hnodup : (buffer :: (rest ++ p.freeList)).Nodup := by
      obtain ⟨_, hperm, hsub⟩ := h
      exact hperm.nodup_iff.mp (p.nodup.sublist hsub)
    have hpool : buffer ∈ p.pool := h.subset List.mem_cons_self
    have hfree : buffer ∉ p.freeList := fun hmem =>
      (List.nodup_cons.mp hnodup).1 (List.mem_append_right _ hmem)
    unfold deallocate
    rw [dif_neg (not_not.mpr hpool), dif_neg hfree]
    have hmoved : (rest ++ buffer :: p.freeList).Perm (buffer :: rest ++ p.freeList) :=
      List.perm_middle
    have hsub : (buffer :: p.freeList).Subperm p.pool :=
      List.cons_subperm_of_not_mem_of_mem hfree hpool p.free_sub
    obtain ⟨hret, hsame, hperm⟩ :=
      ih { p with freeList := buffer :: p.freeList, free_sub := hsub } (hmoved.subperm.trans h)
    exact ⟨hret, hsame, hperm.trans hmoved⟩

end PinnedMemoryPool

namespace PoolUse

variable {β : Type}

/-- The buffers that are in use. -/
def held (s : PoolUse β) : Multiset β := s.memories.sumBy fun _ buffers => (buffers : Multiset β)

/-- The free buffers and those in use are the buffers of the pool, each once. -/
def Conserved (s : PoolUse β) : Prop :=
  (s.mempool.freeList : Multiset β) + s.held = s.mempool.pool

/-- What is expected of an allocation: when it fits it has its buffers, different ones that were
free, and when it does not, the missing ones are counted and nothing changes. -/
def AllocationOk (s : PoolUse β) (memory : ℕ) (size : SizeT) (order : IterationOrder β) : Prop :=
  let result := s.allocate memory size order
  let needed := s.mempool.numChunks size
  if needed ≤ s.mempool.freeList.length then
    (result.2.buffersOf memory).length = needed ∧ (result.2.buffersOf memory).Nodup ∧
      ∀ buffer ∈ result.2.buffersOf memory, buffer ∈ s.mempool.freeList
  else
    result.1 = needed - s.mempool.freeList.length ∧ result.2.mempool = s.mempool ∧
      ∀ other, result.2.buffersOf other = s.buffersOf other

variable {s : PoolUse β}

/-- What one object holds, and what the others do. -/
theorem held_eq (s : PoolUse β) (memory : ℕ) : s.held =
    s.buffersOf memory +
      (s.memories.erase memory).sumBy fun _ buffers => (buffers : Multiset β) := by
  unfold held buffersOf
  cases hget : s.memories.get? memory with
  | none => rw [OrderedDict.sumBy_erase_of_none hget, Option.getD_none, Multiset.coe_nil, zero_add]
  | some buffers => exact OrderedDict.sumBy_erase hget _

theorem Conserved.allocate (h : s.Conserved) (memory : ℕ) (size : SizeT)
    (order : IterationOrder β) : (s.allocate memory size order).2.Conserved := by
  unfold PoolUse.allocate
  split_ifs with hlength
  · exact h
  · have hnone : s.buffersOf memory = [] :=
      List.length_eq_zero_iff.mp (Nat.eq_zero_of_not_pos hlength)
    have hperm : ((s.mempool.allocate order size).2.1 : Multiset β) +
        (s.mempool.allocate order size).2.2.freeList = s.mempool.freeList :=
      Multiset.coe_eq_coe.mpr (s.mempool.allocate_perm order size)
    have hheld := held_eq s memory
    rw [hnone, Multiset.coe_nil, zero_add] at hheld
    unfold Conserved held at *
    dsimp only
    rw [OrderedDict.sumBy_set, ← hheld, s.mempool.pool_allocate, ← h, ← hperm]
    abel

theorem Conserved.release [DecidableEq β] (h : s.Conserved) (memory : ℕ) :
    (s.release memory).Conserved := by
  have hheld := held_eq s memory
  have hsub : (s.buffersOf memory ++ s.mempool.freeList).Subperm s.mempool.pool := by
    rw [← Multiset.coe_le, ← Multiset.coe_add, ← h, hheld,
      add_comm (s.buffersOf memory : Multiset β)]
    exact add_le_add_right (Multiset.le_add_right _ _) _
  obtain ⟨-, hpool, hperm⟩ := s.mempool.deallocate_spec hsub
  have hfree : ((s.mempool.deallocate (s.buffersOf memory)).2.freeList : Multiset β) =
      s.buffersOf memory + s.mempool.freeList := Multiset.coe_eq_coe.mpr hperm
  unfold Conserved at *
  rw [PoolUse.release, hpool, ← h, hheld]
  show ((s.mempool.deallocate _).2.freeList : Multiset β) + (s.memories.erase memory).sumBy _ = _
  rw [hfree]
  abel

/-- **One call.** -/
theorem Conserved.step [DecidableEq β] (h : s.Conserved) (a : PoolCall β) :
    (s.step a).Conserved := by
  cases a with
  | allocate memory size order => exact h.allocate memory size order
  | release memory => exact h.release memory

/-! ## What an allocation returns -/

theorem buffersOf_allocate {memory : ℕ} (hnone : s.buffersOf memory = []) (size : SizeT)
    (order : IterationOrder β) : (s.allocate memory size order).2.buffersOf memory =
      (s.mempool.allocate order size).2.1 := by
  unfold PoolUse.allocate
  rw [hnone, if_neg (by simp), buffersOf, OrderedDict.get?_set_self, Option.getD_some]

/-- An allocation that takes nothing gives an object without buffers. -/
theorem buffersOf_allocate_other {memory : ℕ} (hnone : s.buffersOf memory = []) (size : SizeT)
    (order : IterationOrder β) (htaken : (s.mempool.allocate order size).2.1 = []) (other : ℕ) :
    (s.allocate memory size order).2.buffersOf other = s.buffersOf other := by
  by_cases heq : memory = other
  · subst heq
    rw [buffersOf_allocate hnone, htaken, hnone]
  · unfold PoolUse.allocate
    rw [hnone, if_neg (by simp), buffersOf, OrderedDict.get?_set_of_ne _ _ heq, buffersOf]

theorem allocate_eq {memory : ℕ} (hnone : s.buffersOf memory = []) (size : SizeT)
    (order : IterationOrder β) : (s.allocate memory size order).1 =
      (s.mempool.allocate order size).1 ∧
    (s.allocate memory size order).2.mempool = (s.mempool.allocate order size).2.2 := by
  unfold PoolUse.allocate
  rw [hnone, if_neg (by simp)]
  exact ⟨rfl, rfl⟩

/-- An allocation is right when the count is. -/
theorem allocationOk_iff_count {memory : ℕ} (hnone : s.buffersOf memory = []) {size : SizeT}
    (hsize : 0 < (size : ℕ)) (order : IterationOrder β) :
    let needed := toSize (s.mempool.numBuffersNeeded size)
    let free := s.mempool.freeList.length
    s.AllocationOk memory size order ↔
      (s.mempool.numChunks size ≤ free → needed = s.mempool.numChunks size) ∧
        (free < s.mempool.numChunks size →
          free < needed ∧ toInt (needed - free) = s.mempool.numChunks size - free) := by
  intro needed free
  obtain ⟨hret, hpool⟩ := allocate_eq hnone size order
  have hbuffers := buffersOf_allocate hnone size order
  have hother := buffersOf_allocate_other hnone size order
  have hpos := s.mempool.numChunks_pos hsize
  have hlength : (order.list s.mempool.freeList).length = free := (order.perm _).length_eq
  unfold AllocationOk
  dsimp only
  rw [hret, hpool, hbuffers]
  by_cases hfits : free < needed
  · have halloc : s.mempool.allocate order size = (toInt (needed - free), [], s.mempool) := by
      unfold PinnedMemoryPool.allocate
      rw [if_neg hsize.ne', if_pos hfits]
    rw [halloc] at hother ⊢
    split_ifs with hchunks
    · refine ⟨fun h => absurd h.1 hpos.ne, fun h => ?_⟩
      have hneeded := h.1 hchunks
      omega
    · have hlt : free < s.mempool.numChunks size := not_le.mp hchunks
      refine ⟨fun h => ⟨fun hle => absurd hle hchunks, fun _ => ⟨hfits, h.1⟩⟩, fun h => ?_⟩
      exact ⟨(h.2 hlt).2, rfl, hother rfl⟩
  · have halloc : (s.mempool.allocate order size).1 = 0 ∧ (s.mempool.allocate order size).2.1 =
        (order.list s.mempool.freeList).take needed := by
      unfold PinnedMemoryPool.allocate
      rw [if_neg hsize.ne', if_neg hfits]
      exact ⟨rfl, rfl⟩
    have htake : ((order.list s.mempool.freeList).take needed).length = needed := by
      rw [List.length_take, hlength]
      omega
    rw [halloc.1, halloc.2, htake]
    split_ifs with hchunks
    · refine ⟨fun h => ⟨fun _ => h.1, fun hlt => absurd hchunks (not_le.mpr hlt)⟩, fun h => ?_⟩
      have hnodup := (order.perm _).nodup_iff.mpr s.mempool.nodup_freeList
      refine ⟨h.1 hchunks, hnodup.sublist (List.take_sublist _ _), fun buffer hmem => ?_⟩
      exact (order.perm _).subset (List.mem_of_mem_take hmem)
    · have hlt : free < s.mempool.numChunks size := not_le.mp hchunks
      exact ⟨fun h => by omega, fun h => absurd (h.2 hlt).1 hfits⟩

/-- **What an allocation does**, by the size. -/
theorem allocationOk_iff {memory : ℕ} (hnone : s.buffersOf memory = []) (size : SizeT)
    (order : IterationOrder β) :
    s.AllocationOk memory size order ↔ s.mempool.ExactSize size := by
  rcases Nat.eq_zero_or_pos (size : ℕ) with hzero | hsize
  · -- `Allocate` returns an error here, and takes nothing
    refine iff_of_true ?_ (Or.inl hzero)
    have halloc : (s.mempool.allocate order size).2.1 = [] := by
      unfold PinnedMemoryPool.allocate
      rw [if_pos hzero]
    unfold AllocationOk
    dsimp only
    rw [buffersOf_allocate hnone, halloc, s.mempool.numChunks_zero hzero, if_pos (Nat.zero_le _)]
    exact ⟨rfl, List.nodup_nil, by simp⟩
  · refine (allocationOk_iff_count hnone hsize order).trans ?_
    have hpos := s.mempool.numChunks_pos hsize
    have hfree : s.mempool.freeList.length ≤ 2 ^ 52 :=
      s.mempool.free_sub.length_le.trans s.mempool.length_le
    unfold PinnedMemoryPool.ExactSize
    rcases le_or_gt (size + s.mempool.chunkSize : ℕ) (2 ^ 64) with hsum | hsum
    · rw [PinnedMemoryPool.numBuffersNeeded_of_le hsum, toSize_toInt]
      have hchunks : s.mempool.numChunks size < 2 ^ 64 := by
        have hle := Nat.div_le_self (size + s.mempool.chunkSize - 1) s.mempool.chunkSize
        unfold PinnedMemoryPool.numChunks
        omega
      unfold toInt
      split_ifs <;> omega
    · rw [PinnedMemoryPool.numBuffersNeeded_of_lt hsum]
      have hneeded : toSize 0 = 0 := rfl
      rw [hneeded]
      omega

/-! ## Every run -/

/-- The states that calls reach from a new pool without users. -/
def ReachableFrom [DecidableEq β] (p : PinnedMemoryPool β) (s : PoolUse β) : Prop :=
  Runs.Reachable (· = ⟨p, .empty⟩) (fun s a s' => s' = s.step a) (fun _ (_ : PoolCall β) => True) s

/-- **The pool neither loses nor shares buffers.**  The free buffers and those in use are the pool's,
and an allocation does what is expected exactly for the sizes whose count of buffers is exact. -/
theorem pool_conserved [DecidableEq β] {buffers : List β} {chunkSize : SizeT}
    (nodup : buffers.Nodup) (pos : 0 < (chunkSize : ℕ)) (length_le : buffers.length ≤ 2 ^ 52)
    (h : ReachableFrom (.new buffers chunkSize nodup pos length_le) s) :
    s.Conserved ∧ ∀ memory size order, s.buffersOf memory = [] →
      (s.AllocationOk memory size order ↔ s.mempool.ExactSize size) := by
  refine ⟨?_, fun memory size order hnone => allocationOk_iff hnone size order⟩
  refine h.invariant Conserved ?_ ?_
  · rintro _ rfl
    exact add_zero (buffers : Multiset β)
  · rintro s a _ hs - rfl
    exact hs.step a

/-- Two buffers, one of them taken. -/
theorem pool_conserved_two :
    let p : PinnedMemoryPool (Fin 2) := .new [0, 1] 4096 (by decide) (by decide) (by decide)
    let s := (⟨p, .empty⟩ : PoolUse (Fin 2)).step (.allocate 0 1 (.plain _))
    s.Conserved ∧ ∀ memory size order, s.buffersOf memory = [] →
      (s.AllocationOk memory size order ↔ s.mempool.ExactSize size) :=
  pool_conserved (by decide) (by decide) (by decide) (.step (.start rfl) trivial rfl)

/-- For `2 ^ 32 + 1` chunks one buffer is handed out, and the result is a success. -/
theorem pool_conserved_fails :
    let p : PinnedMemoryPool (Fin 1) := .new [0] 4096 (by decide) (by decide) (by decide)
    let s : PoolUse (Fin 1) := ⟨p, .empty⟩
    let size : SizeT := ⟨2 ^ 44 + 4096, by decide⟩
    s.mempool.numChunks size = 2 ^ 32 + 1 ∧ (s.allocate 0 size (.plain _)).1 = 0 ∧
      (s.allocate 0 size (.plain _)).2.buffersOf 0 = [0] ∧
      ¬ s.AllocationOk 0 size (.plain _) := by
  intro p s size
  refine ⟨by decide, by decide, by decide, fun h => ?_⟩
  have hnone : s.buffersOf 0 = [] := rfl
  have hexact := (allocationOk_iff hnone size (.plain _)).mp h
  exact absurd hexact (by decide)

end PoolUse

end Store
end SpotServe
