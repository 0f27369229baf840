import Mathlib.Data.List.Basic

/-!
# Numbers in text

Names that carry numbers, as `printf`-style formatting writes them and regular expressions read
them back.  A digit is any decimal digit of Unicode (`\d`), whatever its script.

* `readDigits`: the longest run of digits at the start of a text, as a number, and what follows.
* `readDigits_toDigits`: a printed number is read back, whatever stands behind it;
  `eq_of_toString_eq`: different numbers print differently.
* `matchLiteral`: a literal at the start of a text, and what follows.
* `search`: the first place of a text where a pattern matches.
-/

namespace Py

/-- The digit zero of every script that has decimal digits; the other nine follow it. -/
def decimalZeros : List ℕ :=
  [0x30, 0x660, 0x6f0, 0x7c0, 0x966, 0x9e6, 0xa66, 0xae6, 0xb66, 0xbe6, 0xc66, 0xce6, 0xd66, 0xde6,
    0xe50, 0xed0, 0xf20, 0x1040, 0x1090, 0x17e0, 0x1810, 0x1946, 0x19d0, 0x1a80, 0x1a90, 0x1b50,
    0x1bb0, 0x1c40, 0x1c50, 0xa620, 0xa8d0, 0xa900, 0xa9d0, 0xa9f0, 0xaa50, 0xabf0, 0xff10, 0x104a0,
    0x10d30, 0x11066, 0x110f0, 0x11136, 0x111d0, 0x112f0, 0x11450, 0x114d0, 0x11650, 0x116c0,
    0x11730, 0x118e0, 0x11950, 0x11c50, 0x11d50, 0x11da0, 0x16a60, 0x16ac0, 0x16b50, 0x1d7ce,
    0x1d7d8, 0x1d7e2, 0x1d7ec, 0x1d7f6, 0x1e140, 0x1e2f0, 0x1e950, 0x1fbf0]

/-- The value of a decimal digit. -/
def digitValue? (c : Char) : Option ℕ :=
  (decimalZeros.find? fun start => start ≤ c.toNat && c.toNat < start + 10).map (c.toNat - ·)

/-- The digits at the start of a text, appended to those already read. -/
def digitRun (acc : ℕ) : List Char → ℕ × List Char
  | [] => (acc, [])
  | c :: cs =>
    match digitValue? c with
    | some d => digitRun (acc * 10 + d) cs
    | none => (acc, c :: cs)

/-- `(\d+)` at the start of a text: the number, and what follows. -/
def readDigits : List Char → Option (ℕ × List Char)
  | [] => none
  | c :: cs => (digitValue? c).map fun d => digitRun d cs

/-- A literal at the start of a text: what follows it. -/
def matchLiteral (literal text : List Char) : Option (List Char) :=
  if literal.isPrefixOf text then some (text.drop literal.length) else none

/-- `re.search`: what a pattern gives at the first place where it matches. -/
def search {α : Type*} (pattern : List Char → Option α) : List Char → Option α
  | [] => pattern []
  | c :: cs => (pattern (c :: cs)).or (search pattern cs)

@[simp] theorem matchLiteral_append (literal rest : List Char) :
    matchLiteral literal (literal ++ rest) = some rest := by
  have h : literal.isPrefixOf (literal ++ rest) = true :=
    List.isPrefixOf_iff_prefix.mpr (List.prefix_append literal rest)
  simp [matchLiteral, h]

theorem matchLiteral_cons_of_ne {l c : Char} (h : l ≠ c) (literal text : List Char) :
    matchLiteral (l :: literal) (c :: text) = none := by
  have hne : (l == c) = false := beq_eq_false_iff_ne.mpr h
  simp [matchLiteral, List.isPrefixOf, hne]

theorem search_eq_of_head {α : Type*} {pattern : List Char → Option α} {text : List Char} {a : α}
    (h : pattern text = some a) : search pattern text = some a := by
  cases text with
  | nil => exact h
  | cons c text => rw [search, h, Option.some_or]

/-- A search goes past characters with which the pattern never starts. -/
theorem search_append {α : Type*} {pattern : List Char → Option α} {skipped : List Char}
    (h : ∀ c ∈ skipped, ∀ text, pattern (c :: text) = none) (rest : List Char) :
    search pattern (skipped ++ rest) = search pattern rest := by
  induction skipped with
  | nil => rfl
  | cons c skipped ih =>
    rw [List.cons_append, search, h c List.mem_cons_self, Option.none_or,
      ih fun c' hc' => h c' (List.mem_cons_of_mem c hc')]

theorem search_map {α β : Type*} (pattern : List Char → Option α) (f : α → β) (text : List Char) :
    search (fun rest => (pattern rest).map f) text = (search pattern text).map f := by
  induction text with
  | nil => rfl
  | cons c text ih => rw [search, search, ih, Option.map_or]

/-- The run of digits ends where the characters that are digits do. -/
theorem digitRun_eq (acc : ℕ) (text : List Char) :
    digitRun acc text = ((digitRun acc (text.takeWhile fun c => (digitValue? c).isSome)).1,
      text.dropWhile fun c => (digitValue? c).isSome) := by
  induction text generalizing acc with
  | nil => rfl
  | cons c text ih =>
    cases hc : digitValue? c with
    | none => simp [digitRun, hc]
    | some d =>
      simp only [List.takeWhile_cons, List.dropWhile_cons, hc, Option.isSome_some, if_true,
        digitRun]
      exact ih _

/-- A text continues with something other than a digit. -/
def EndsNumber (rest : List Char) : Prop := ∀ c ∈ rest.head?, digitValue? c = none

theorem endsNumber_nil : EndsNumber [] := by
  simp [EndsNumber]

theorem endsNumber_cons {c : Char} {rest : List Char} (h : digitValue? c = none) :
    EndsNumber (c :: rest) := by
  simpa [EndsNumber] using h

theorem digitValue?_of_isDigit {c : Char} (h : c.isDigit = true) :
    digitValue? c = some (c.toNat - '0'.toNat) := by
  have hrange : 48 ≤ c.toNat ∧ c.toNat < 58 := by
    have := Char.isDigit_iff_toNat.mp h
    simp at this
    omega
  have hfind : (decimalZeros.find? fun start => start ≤ c.toNat && c.toNat < start + 10) =
      some 0x30 := by
    rw [decimalZeros, List.find?_cons_of_pos]
    simpa using hrange
  simp [digitValue?, hfind]

theorem digitRun_append {digits rest : List Char} (h : ∀ c ∈ digits, c.isDigit = true)
    (hrest : EndsNumber rest) (acc : ℕ) :
    digitRun acc (digits ++ rest) = (Nat.ofDigitChars 10 digits acc, rest) := by
  induction digits generalizing acc with
  | nil =>
    cases rest with
    | nil => rfl
    | cons c cs =>
      have hc : digitValue? c = none := hrest c (by simp)
      simp [digitRun, hc]
  | cons c digits ih =>
    have hc := digitValue?_of_isDigit (h c List.mem_cons_self)
    rw [List.cons_append, digitRun, hc]
    simp only
    rw [ih fun c' hc' => h c' (List.mem_cons_of_mem c hc'), Nat.ofDigitChars_cons, Nat.mul_comm]

/-- **A printed number is read back.** -/
theorem readDigits_toDigits (n : ℕ) {rest : List Char} (hrest : EndsNumber rest) :
    readDigits (Nat.toDigits 10 n ++ rest) = some (n, rest) := by
  have hdigits : ∀ c ∈ Nat.toDigits 10 n, c.isDigit = true :=
    fun c hc => Nat.isDigit_of_mem_toDigits (by decide) (by decide) hc
  cases htext : Nat.toDigits 10 n with
  | nil => exact absurd htext Nat.toDigits_ne_nil
  | cons c digits =>
    rw [htext] at hdigits
    have hrun := digitRun_append hdigits hrest 0
    have hc := digitValue?_of_isDigit (hdigits c List.mem_cons_self)
    have hvalue : Nat.ofDigitChars 10 (c :: digits) 0 = n := by
      rw [← htext, Nat.ofDigitChars_ten_toDigits]
    rw [hvalue] at hrun
    rw [List.cons_append, readDigits, hc, Option.map_some, ← hrun, List.cons_append, digitRun, hc]
    simp

/-- The number that a printed number is read as. -/
theorem digitRun_toString (n : ℕ) : (digitRun 0 (toString n).toList).1 = n := by
  have hdigits : ∀ c ∈ Nat.toDigits 10 n, c.isDigit = true :=
    fun c hc => Nat.isDigit_of_mem_toDigits (by decide) (by decide) hc
  have hrun := digitRun_append hdigits endsNumber_nil 0
  rw [List.append_nil] at hrun
  rw [Nat.toString_eq_repr, Nat.toList_repr, hrun, Nat.ofDigitChars_ten_toDigits]

/-- Different numbers print differently. -/
theorem eq_of_toString_eq {m n : ℕ} (h : toString m = toString n) : m = n := by
  rw [← digitRun_toString m, h, digitRun_toString]

end Py
