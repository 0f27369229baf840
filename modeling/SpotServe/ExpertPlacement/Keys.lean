import Mathlib.Data.Int.Notation
import SpotServe.Library.DecimalText

/-!
# Names of experts and ranks

The placement planner (`sllm/spot/moe_placement.py`) and the workers that carry a placement out
(`sllm/vllm_expert_remap.py`) share no types.  They agree through texts: an expert is
`layer:l/expert:e`, a rank is `replica:k/ep-rank:r`.  Here are the texts, the patterns that read
them, and the facts that make the agreement work: different experts have different keys, and a
printed rank is read back.
-/

namespace SpotServe
namespace ExpertPlacement

open Py

/-- `f"layer:{layer_id}/expert:{expert_id}"`. -/
def expertKey (layerId expertId : ℕ) : String :=
  "layer:" ++ toString layerId ++ "/expert:" ++ toString expertId

/-- `f"replica:{replica_id}/ep-rank:{rank_index}"`. -/
def rankName (replicaId : ℕ) (rankIndex : ℤ) : String :=
  "replica:" ++ toString replicaId ++ "/ep-rank:" ++ toString rankIndex

/-- The digits of `rank[:\-]?(\d+)`, behind the word. -/
def rankDigits (text : List Char) : Option ℕ :=
  let digits :=
    match text with
    | ':' :: rest => rest
    | '-' :: rest => rest
    | _ => text
  (readDigits digits).map Prod.fst

/-- `rank[:\-]?(\d+)` at the start of a text. -/
def rankHere (text : List Char) : Option ℕ :=
  (matchLiteral "rank".toList text).bind rankDigits

/-- `ep-rank[:\-]?(\d+)` at the start of a text. -/
def epRankHere (text : List Char) : Option ℕ :=
  (matchLiteral "ep-rank".toList text).bind rankDigits

/-- `_rank_index`. -/
def rankIndex (value : String) (rankCount : ℕ) : Option ℕ :=
  match search (fun text => (epRankHere text).or (rankHere text)) value.toList with
  | some rank => if rank < rankCount then some rank else none
  | none => none

/-- `_rank_signature`. -/
def rankSignature (value : String) : String :=
  match search epRankHere value.toList with
  | some rank => "ep-rank:" ++ toString rank
  | none =>
    match search rankHere value.toList with
    | some rank => "rank:" ++ toString rank
    | none => value

theorem lt_of_rankIndex {value : String} {rankCount rank : ℕ}
    (h : rankIndex value rankCount = some rank) : rank < rankCount := by
  unfold rankIndex at h
  split at h
  · split at h
    · cases h
      assumption
    · exact absurd h (by simp)
  · exact absurd h (by simp)

theorem toList_toString (n : ℕ) : (toString n).toList = Nat.toDigits 10 n := by
  rw [Nat.toString_eq_repr, Nat.toList_repr]

theorem toList_expertKey (layerId expertId : ℕ) :
    (expertKey layerId expertId).toList =
      "layer:".toList ++ (Nat.toDigits 10 layerId ++
        ("/expert:".toList ++ (Nat.toDigits 10 expertId ++ []))) := by
  simp only [expertKey, String.toList_append, toList_toString, List.append_assoc, List.append_nil]

theorem toList_rankName (replicaId rank : ℕ) :
    (rankName replicaId rank).toList =
      "replica:".toList ++ (Nat.toDigits 10 replicaId ++
        ("/ep-rank:".toList ++ (Nat.toDigits 10 rank ++ []))) := by
  have hrank : (toString (rank : ℤ)).toList = Nat.toDigits 10 rank := toList_toString rank
  simp only [rankName, String.toList_append, toList_toString, hrank, List.append_assoc,
    List.append_nil]

/-- Two texts that put numbers behind the same words have the same numbers. -/
theorem numbers_of_text_eq {first second : List Char} {a b a' b' : ℕ}
    (hsecond : ∀ rest, EndsNumber (second ++ rest))
    (h : first ++ (Nat.toDigits 10 a ++ (second ++ (Nat.toDigits 10 b ++ []))) =
      first ++ (Nat.toDigits 10 a' ++ (second ++ (Nat.toDigits 10 b' ++ [])))) :
    a = a' ∧ b = b' := by
  have hread := congrArg readDigits (List.append_cancel_left h)
  rw [readDigits_toDigits a (hsecond _), readDigits_toDigits a' (hsecond _), Option.some_inj,
    Prod.mk.injEq] at hread
  obtain ⟨ha, htail⟩ := hread
  have hread' := congrArg readDigits (List.append_cancel_left htail)
  rw [readDigits_toDigits b endsNumber_nil, readDigits_toDigits b' endsNumber_nil, Option.some_inj,
    Prod.mk.injEq] at hread'
  exact ⟨ha, hread'.1⟩

theorem endsNumber_slash (word : List Char) : EndsNumber ('/' :: word) :=
  endsNumber_cons (by decide)

/-- Different experts have different keys. -/
theorem expertKey_inj {layerId expertId layerId' expertId' : ℕ} :
    expertKey layerId expertId = expertKey layerId' expertId' ↔
      layerId = layerId' ∧ expertId = expertId' := by
  constructor
  · intro h
    have htext := congrArg String.toList h
    rw [toList_expertKey, toList_expertKey] at htext
    exact numbers_of_text_eq (fun rest => endsNumber_slash _) htext
  · rintro ⟨rfl, rfl⟩
    rfl

/-- Different ranks have different names. -/
theorem rankName_inj {replicaId rank replicaId' rank' : ℕ} :
    rankName replicaId rank = rankName replicaId' rank' ↔
      replicaId = replicaId' ∧ rank = rank' := by
  constructor
  · intro h
    have htext := congrArg String.toList h
    rw [toList_rankName, toList_rankName] at htext
    exact numbers_of_text_eq (fun rest => endsNumber_slash _) htext
  · rintro ⟨rfl, rfl⟩
    rfl

/-! ## Reading a printed rank -/

theorem rankDigits_colon (rank : ℕ) :
    rankDigits (":".toList ++ Nat.toDigits 10 rank) = some rank := by
  have h := readDigits_toDigits rank endsNumber_nil
  rw [List.append_nil] at h
  show (readDigits (Nat.toDigits 10 rank)).map Prod.fst = some rank
  rw [h]
  rfl

theorem epRankHere_name (rank : ℕ) :
    epRankHere ("ep-rank:".toList ++ Nat.toDigits 10 rank) = some rank := by
  show (matchLiteral "ep-rank".toList
    ("ep-rank".toList ++ (":".toList ++ Nat.toDigits 10 rank))).bind rankDigits = some rank
  rw [matchLiteral_append, Option.bind_some, rankDigits_colon]

theorem epRankHere_cons {c : Char} (h : c ≠ 'e') (text : List Char) :
    epRankHere (c :: text) = none := by
  show (matchLiteral ('e' :: "p-rank".toList) (c :: text)).bind _ = none
  rw [matchLiteral_cons_of_ne h.symm, Option.bind_none]

theorem rankHere_cons {c : Char} (h : c ≠ 'r') (text : List Char) :
    rankHere (c :: text) = none := by
  show (matchLiteral ('r' :: "ank".toList) (c :: text)).bind _ = none
  rw [matchLiteral_cons_of_ne h.symm, Option.bind_none]

/-- Nothing in front of the rank reads as one. -/
theorem search_rankName {other : List Char → Option ℕ}
    (hother : ∀ c, c ≠ 'r' → ∀ text, other (c :: text) = none)
    (hreplica : ∀ text, other ('r' :: 'e' :: text) = none) (replicaId rank : ℕ) :
    search (fun text => (epRankHere text).or (other text)) (rankName replicaId rank).toList =
      some rank := by
  have hskip : ∀ c, c ≠ 'e' → c ≠ 'r' → ∀ text,
      ((epRankHere (c :: text)).or (other (c :: text))) = none := by
    intro c he hr text
    rw [epRankHere_cons he, hother c hr, Option.none_or]
  have hdigits : ∀ c ∈ Nat.toDigits 10 replicaId, c ≠ 'e' ∧ c ≠ 'r' := by
    intro c hc
    have hdigit := Nat.isDigit_of_mem_toDigits (by decide) (by decide) hc
    exact ⟨fun h => absurd hdigit (by rw [h]; decide), fun h => absurd hdigit (by rw [h]; decide)⟩
  have hword : ∀ c ∈ ['p', 'l', 'i', 'c', 'a', ':'], c ≠ 'e' ∧ c ≠ 'r' := by simp
  have hslash : ∀ c ∈ ['/'], c ≠ 'e' ∧ c ≠ 'r' := by simp
  -- `replica:` starts like both words, so its first two letters are tried one by one.
  rw [toList_rankName, List.append_nil]
  show search _ ('r' :: 'e' :: (['p', 'l', 'i', 'c', 'a', ':'] ++ (Nat.toDigits 10 replicaId ++
    (['/'] ++ ("ep-rank:".toList ++ Nat.toDigits 10 rank))))) = _
  rw [search, epRankHere_cons (by decide), hreplica, Option.none_or, Option.none_or, search,
    hother _ (by decide), show epRankHere ('e' :: _) = none from rfl, Option.none_or,
    Option.none_or,
    search_append fun c hc => hskip c (hword c hc).1 (hword c hc).2,
    search_append fun c hc => hskip c (hdigits c hc).1 (hdigits c hc).2,
    search_append fun c hc => hskip c (hslash c hc).1 (hslash c hc).2]
  exact search_eq_of_head (by rw [epRankHere_name rank, Option.some_or])

/-- A printed rank is read back. -/
theorem rankIndex_rankName (replicaId : ℕ) {rank rankCount : ℕ} (h : rank < rankCount) :
    rankIndex (rankName replicaId rank) rankCount = some rank := by
  rw [rankIndex, search_rankName (fun c hc => rankHere_cons hc) fun text => rfl]
  exact if_pos h

theorem rankSignature_rankName (replicaId rank : ℕ) :
    rankSignature (rankName replicaId rank) = "ep-rank:" ++ toString rank := by
  have h : search (fun text => (epRankHere text).or none) (rankName replicaId rank).toList =
      some rank := search_rankName (fun _ _ _ => rfl) (fun _ => rfl) replicaId rank
  simp only [Option.or_none] at h
  rw [rankSignature, h]

end ExpertPlacement
end SpotServe
