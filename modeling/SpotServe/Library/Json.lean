import Mathlib.Data.List.Sort
import SpotServe.Library.PyValue

/-!
# Comparing and printing values

Two values are the same when they are built alike; dictionaries of the same items in different
orders are not.  `dumps` is `json.dumps(value, sort_keys=True)`, which prints those two alike.
-/

namespace Py

/-! ## Equality -/

mutual

/-- Are two values built alike? -/
def Value.same : Value → Value → Bool
  | .none, .none => true
  | .bool a, .bool b => a == b
  | .int m, .int n => m == n
  | .float q s, .float r t => q == r && s == t
  | .str s, .str t => s == t
  | .list xs, .list ys => sameList xs ys
  | .dict xs, .dict ys => sameItems xs ys
  | _, _ => false

/-- The entries of two lists, one by one. -/
def sameList : List Value → List Value → Bool
  | [], [] => true
  | x :: xs, y :: ys => x.same y && sameList xs ys
  | _, _ => false

/-- The items of two dictionaries, one by one. -/
def sameItems : List (String × Value) → List (String × Value) → Bool
  | [], [] => true
  | (k, x) :: xs, (l, y) :: ys => k == l && x.same y && sameItems xs ys
  | _, _ => false

end

mutual

theorem Value.same_iff : ∀ a b : Value, a.same b = true ↔ a = b
  | .none, b => by cases b <;> simp [Value.same]
  | .bool _, b => by cases b <;> simp [Value.same]
  | .int _, b => by cases b <;> simp [Value.same]
  | .float _ _, b => by cases b <;> simp [Value.same]
  | .str _, b => by cases b <;> simp [Value.same]
  | .list xs, b => by cases b <;> simp [Value.same, sameList_iff xs]
  | .dict xs, b => by cases b <;> simp [Value.same, sameItems_iff xs]

theorem sameList_iff : ∀ xs ys : List Value, sameList xs ys = true ↔ xs = ys
  | [], ys => by cases ys <;> simp [sameList]
  | x :: xs, ys => by cases ys <;> simp [sameList, Value.same_iff x, sameList_iff xs]

theorem sameItems_iff : ∀ xs ys : List (String × Value), sameItems xs ys = true ↔ xs = ys
  | [], ys => by cases ys <;> simp [sameItems]
  | (k, x) :: xs, ys => by
    cases ys <;> simp [sameItems, Value.same_iff x, sameItems_iff xs, Prod.ext_iff]

end

instance : DecidableEq Value := fun a b => decidable_of_iff _ (Value.same_iff a b)

/-! ## JSON texts -/

/-- `\uXXXX`, for a number below `2 ^ 16`. -/
def unicodeEscape (n : ℕ) : List Char :=
  ['\\', 'u', Nat.digitChar (n / 4096), Nat.digitChar (n / 256 % 16), Nat.digitChar (n / 16 % 16),
    Nat.digitChar (n % 16)]

/-- A character of a string literal: what is not printable ASCII is escaped, by two surrogates
where one escape has no room for it. -/
def jsonChar (c : Char) : List Char :=
  if c = '"' then ['\\', '"']
  else if c = '\\' then ['\\', '\\']
  else if c = '\n' then ['\\', 'n']
  else if c = '\r' then ['\\', 'r']
  else if c = '\t' then ['\\', 't']
  else if c = '\x0c' then ['\\', 'f']
  else if c = '\x08' then ['\\', 'b']
  else if ' ' ≤ c ∧ c ≤ '~' then [c]
  else if c.toNat < 0x10000 then unicodeEscape c.toNat
  else
    unicodeEscape (0xd800 + (c.toNat - 0x10000) / 0x400) ++
      unicodeEscape (0xdc00 + (c.toNat - 0x10000) % 0x400)

/-- A string literal. -/
def jsonString (s : String) : String := "\"" ++ String.ofList (s.toList.flatMap jsonChar) ++ "\""

mutual

/-- `json.dumps(v, sort_keys=True)`. -/
def Value.dumps : Value → String
  | .none => "null"
  | .bool b => if b then "true" else "false"
  | .int n => toString n
  | .float _ text => text
  | .str s => jsonString s
  | .list xs => "[" ++ ", ".intercalate (dumpsList xs) ++ "]"
  | .dict items =>
    let sorted := (dumpsItems items).insertionSort fun a b => a.1 ≤ b.1
    "\x7b" ++ ", ".intercalate (sorted.map fun item => jsonString item.1 ++ ": " ++ item.2) ++
      "\x7d"

/-- The texts of the entries of a list. -/
def dumpsList : List Value → List String
  | [] => []
  | x :: xs => x.dumps :: dumpsList xs

/-- The keys of a dictionary with the texts of their values. -/
def dumpsItems : List (String × Value) → List (String × String)
  | [] => []
  | (k, v) :: items => (k, v.dumps) :: dumpsItems items

end

example : Value.dumps (.dict [("b", .list [.int 1, .none]), ("a", .str "x\ny")]) =
    "\x7b\"a\": \"x\\ny\", \"b\": [1, null]\x7d" := by
  decide +kernel

end Py
