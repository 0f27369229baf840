import Mathlib.Data.Rat.Floor
import Mathlib.Data.List.Basic
import Mathlib.Data.List.Infix
import SpotServe.Library.DecimalText

/-!
# Dynamic values

Python payloads that a program takes apart at run time: `None`, booleans, integers, floats,
strings, lists and string-keyed dictionaries.  A float is an exact rational together with the
text that `str` prints for it.  Dictionaries keep their insertion order.

Spaces and digits are those of Unicode.  `lower` is meant for comparisons with ASCII words: it
changes the characters whose lower case is an ASCII letter.
-/

namespace Py

/-- A value of a dynamically typed payload. -/
inductive Value where
  | none
  | bool (b : Bool)
  | int (n : ℤ)
  | float (q : ℚ) (text : String)
  | str (s : String)
  | list (xs : List Value)
  | dict (items : List (String × Value))

/-- A dictionary with string keys, in insertion order. -/
abbrev Dict := List (String × Value)

/-- `key in d`. -/
def hasKey {α : Type*} (d : List (String × α)) (key : String) : Bool :=
  (d.lookup key).isSome

/-! ## Equality -/

/-- A boolean, an integer or a float as a number. -/
def Value.number? : Value → Option ℚ
  | .bool b => some (if b then 1 else 0)
  | .int n => some n
  | .float q _ => some q
  | _ => Option.none

mutual

/-- `v == w`: numbers of all kinds are compared by value, dictionaries whatever their order. -/
def Value.equals : Value → Value → Bool
  | .none, .none => true
  | .str s, .str t => s = t
  | .list xs, .list ys => equalsList xs ys
  | .dict items, .dict items' => items.length = items'.length && equalsItems items items'
  | v, w =>
    match v.number?, w.number? with
    | some p, some q => p = q
    | _, _ => false

/-- `==` of the entries of two lists. -/
def equalsList : List Value → List Value → Bool
  | [], [] => true
  | x :: xs, y :: ys => x.equals y && equalsList xs ys
  | _, _ => false

/-- Whether the items are all found, with equal values, among others. -/
def equalsItems : List (String × Value) → List (String × Value) → Bool
  | [], _ => true
  | (k, v) :: items, items' =>
    (match items'.lookup k with
      | some w => v.equals w
      | Option.none => false) && equalsItems items items'

end

/-! ## Strings -/

/-- `pat in s`. -/
def contains (pat s : String) : Bool :=
  decide (pat.toList <:+: s.toList)

/-- `c.isspace()`. -/
def isSpace (c : Char) : Bool :=
  9 ≤ c.toNat && c.toNat ≤ 13 || 0x1c ≤ c.toNat && c.toNat ≤ 0x20 ||
    0x2000 ≤ c.toNat && c.toNat ≤ 0x200a ||
    [0x85, 0xa0, 0x1680, 0x2028, 0x2029, 0x202f, 0x205f, 0x3000].contains c.toNat

/-- The spaces that may stand around a number: not the four ASCII separators. -/
def isNumberSpace (c : Char) : Bool := isSpace c && !(0x1c ≤ c.toNat && c.toNat ≤ 0x1f)

/-- A text without certain characters at its ends. -/
def trim (p : Char → Bool) (s : String) : List Char :=
  ((s.toList.dropWhile p).reverse.dropWhile p).reverse

/-- `s.strip()`. -/
def strip (s : String) : List Char := trim isSpace s

/-- The lower case of an ASCII letter and of the Kelvin sign, the only other character whose lower
case is ASCII. -/
def lowerChar (c : Char) : Char := if c.toNat = 0x212a then 'k' else c.toLower

/-- `s.lower()`, where it is compared with ASCII words. -/
def lower (cs : List Char) : String := String.ofList (cs.map lowerChar)

/-- The first and the last of the digits that no decimal number has, such as superscripts and
numbers in circles. -/
def otherDigits : List (ℕ × ℕ) :=
  [(0xb2, 0xb3), (0xb9, 0xb9), (0x1369, 0x1371), (0x19da, 0x19da), (0x2070, 0x2070),
    (0x2074, 0x2079), (0x2080, 0x2089), (0x2460, 0x2468), (0x2474, 0x247c), (0x2488, 0x2490),
    (0x24ea, 0x24ea), (0x24f5, 0x24fd), (0x24ff, 0x24ff), (0x2776, 0x277e), (0x2780, 0x2788),
    (0x278a, 0x2792), (0x10a40, 0x10a43), (0x10e60, 0x10e68), (0x11052, 0x1105a),
    (0x1f100, 0x1f10a)]

/-- `c.isdigit()`. -/
def isDigitChar (c : Char) : Bool :=
  (digitValue? c).isSome ||
    otherDigits.any fun (first, last) => first ≤ c.toNat && c.toNat ≤ last

/-- `s.isdigit()`: not empty, and digits only. -/
def isDigits (s : String) : Bool :=
  !s.toList.isEmpty && s.toList.all isDigitChar

/-- Cut a string at every character that satisfies `p`. -/
def splitOn (p : Char → Bool) (s : String) : List String :=
  (s.toList.splitOnP p).map String.ofList

/-- The digits of an integer literal, single underscores between digits allowed. -/
def literalDigits (acc : ℕ) (afterDigit : Bool) : List Char → Option ℕ
  | [] => if afterDigit then some acc else Option.none
  | c :: cs =>
    match digitValue? c with
    | some d => literalDigits (acc * 10 + d) true cs
    | Option.none => if c = '_' && afterDigit then literalDigits acc false cs else Option.none

/-- `int(s)` on a string; `none` is the `ValueError`. -/
def intOfString (s : String) : Option ℤ :=
  match trim isNumberSpace s with
  | '-' :: cs => (literalDigits 0 false cs).map fun n => -(n : ℤ)
  | '+' :: cs => (literalDigits 0 false cs).map fun n => (n : ℤ)
  | cs => (literalDigits 0 false cs).map fun n => (n : ℤ)

/-- Digits with an optional sign. -/
def signedDigits : List Char → Option ℤ
  | '-' :: cs => (literalDigits 0 false cs).map fun n => -(n : ℤ)
  | '+' :: cs => (literalDigits 0 false cs).map fun n => (n : ℤ)
  | cs => (literalDigits 0 false cs).map fun n => (n : ℤ)

/-- A decimal literal without its sign: digits on at least one side of the point, and an optional
power of ten. -/
def unsignedFloat (cs : List Char) : Option ℚ := do
  let (mantissa, power) := cs.span fun c => c ≠ 'e' && c ≠ 'E'
  let (whole, fraction) := mantissa.span (· ≠ '.')
  let decimals := fraction.drop 1
  let exponent ← if power.isEmpty then some 0 else signedDigits (power.drop 1)
  if whole.isEmpty && decimals.isEmpty then Option.none
  let wholeValue ← if whole.isEmpty then some 0 else literalDigits 0 false whole
  let decimalValue ← if decimals.isEmpty then some 0 else literalDigits 0 false decimals
  return ((wholeValue : ℚ) + decimalValue / 10 ^ (decimals.filter fun c => c ≠ '_').length) *
    10 ^ exponent

/-- `float(s)` on a string; `none` is the `ValueError`.  The texts of the infinities and of `nan`,
which no rational stands for, are not read. -/
def floatOfString (s : String) : Option ℚ :=
  match trim isNumberSpace s with
  | '-' :: cs => (unsignedFloat cs).map fun q => -q
  | '+' :: cs => unsignedFloat cs
  | cs => unsignedFloat cs

/-! ## Numbers -/

/-- `int(q)` on a float: the fractional part is dropped. -/
def truncate (q : ℚ) : ℤ :=
  if 0 ≤ q then ⌊q⌋ else ⌈q⌉

/-- `round(q)`: to the nearest integer, a tie to the even one. -/
def round (q : ℚ) : ℤ :=
  if q - ⌊q⌋ < 1 / 2 then ⌊q⌋
  else if 1 / 2 < q - ⌊q⌋ then ⌊q⌋ + 1
  else if ⌊q⌋ % 2 = 0 then ⌊q⌋ else ⌊q⌋ + 1

/-! ## Conversions of values -/

/-- `int(v)`; `none` is the `TypeError` or `ValueError`. -/
def Value.int? : Value → Option ℤ
  | .bool b => some (if b then 1 else 0)
  | .int n => some n
  | .float q _ => some (truncate q)
  | .str s => intOfString s
  | .none => Option.none
  | .list _ => Option.none
  | .dict _ => Option.none

/-- `float(v)`; `none` is the `TypeError` or `ValueError`. -/
def Value.float? : Value → Option ℚ
  | .bool b => some (if b then 1 else 0)
  | .int n => some n
  | .float q _ => some q
  | .str s => floatOfString s
  | .none => Option.none
  | .list _ => Option.none
  | .dict _ => Option.none

/-- `bool(v)`. -/
def Value.truthy : Value → Bool
  | .none => false
  | .bool b => b
  | .int n => n ≠ 0
  | .float q _ => q ≠ 0
  | .str s => s ≠ ""
  | .list xs => !xs.isEmpty
  | .dict items => !items.isEmpty

/-- The characters of a string literal between single quotes. -/
def escape (s : String) : String :=
  String.ofList (s.toList.flatMap fun c =>
    if c = '\\' then ['\\', '\\']
    else if c = '\'' then ['\\', '\'']
    else if c = '\n' then ['\\', 'n']
    else if c = '\r' then ['\\', 'r']
    else if c = '\t' then ['\\', 't']
    else [c])

/-- `repr(s)` on a string: single quotes, or double ones when only they avoid an escape. -/
def quote (s : String) : String :=
  if s.toList.contains '\'' && !s.toList.contains '"' then "\"" ++ s ++ "\""
  else "'" ++ escape s ++ "'"

mutual

/-- `repr(v)`. -/
def Value.repr : Value → String
  | .none => "None"
  | .bool b => if b then "True" else "False"
  | .int n => toString n
  | .float _ text => text
  | .str s => quote s
  | .list xs => "[" ++ ", ".intercalate (reprList xs) ++ "]"
  | .dict items => "\x7b" ++ ", ".intercalate (reprItems items) ++ "\x7d"

/-- `repr` of the entries of a list. -/
def reprList : List Value → List String
  | [] => []
  | x :: xs => x.repr :: reprList xs

/-- `repr` of the items of a dictionary. -/
def reprItems : List (String × Value) → List String
  | [] => []
  | (k, v) :: items => (quote k ++ ": " ++ v.repr) :: reprItems items

end

/-- `str(v)`. -/
def Value.toStr : Value → String
  | .str s => s
  | v => v.repr

/-- `str(v or default)`, an absent value being `None`. -/
def strOr (v : Option Value) (default : String) : String :=
  match v with
  | some v => if v.truthy then v.toStr else default
  | Option.none => default

/-- `int(payload.get(key, 0) or 0)`; `none` is the `TypeError` or `ValueError`. -/
def readInt? (payload : Dict) (key : String) : Option ℤ :=
  match payload.lookup key with
  | Option.none => some 0
  | some value => if value.truthy then value.int? else some 0

/-- `float(payload.get(key, 0.0) or 0.0)`; `none` is the `TypeError` or `ValueError`. -/
def readFloat? (payload : Dict) (key : String) : Option ℚ :=
  match payload.lookup key with
  | Option.none => some 0
  | some value => if value.truthy then value.float? else some 0

/-- Two values, neither of them `None`, that read differently. -/
def knownAndUnequal (v w : Value) : Bool :=
  match v, w with
  | .none, _ => false
  | _, .none => false
  | v, w => v.toStr ≠ w.toStr

end Py
