import Mathlib.Tactic

/-!
# JSON documents

A document as `json.loads` returns it. An object is the list of its members, of which a lookup sees
the first with a key.
-/

namespace ModelSwitch.Py

/-- A float: a rational, or one of the non-finite values. -/
inductive Decimal
  | finite (value : ℚ)
  | nan
  | inf (negative : Bool)
  deriving DecidableEq

inductive Json
  | null
  | bool (value : Bool)
  | int (value : ℤ)
  | float (value : Decimal)
  | str (value : String)
  | arr (items : List Json)
  | obj (members : List (String × Json))

abbrev Members := List (String × Json)

/-- The characters that `str.strip` takes off. -/
def isSpace (c : Char) : Bool :=
  let n := c.toNat
  9 ≤ n ∧ n ≤ 13 ∨ 28 ≤ n ∧ n ≤ 32 ∨
    n ∈ [0x85, 0xA0, 0x1680, 0x2028, 0x2029, 0x202F, 0x205F, 0x3000] ∨
    0x2000 ≤ n ∧ n ≤ 0x200A

/-- `text.strip()`. -/
def strip (text : String) : List Char :=
  ((text.toList.dropWhile isSpace).reverse.dropWhile isSpace).reverse

/-- A range of a character class, such as `a-z`. -/
def inRange (first last c : Char) : Bool := first.toNat ≤ c.toNat ∧ c.toNat ≤ last.toNat

/-- A lowercase SHA-256. -/
def isHexDigest (text : String) : Bool :=
  text.toList.length = 64 ∧ text.toList.all fun c => inRange '0' '9' c ∨ inRange 'a' 'f' c

namespace Json

/-- `value == text` for a string. -/
def isStr (value : Option Json) (text : String) : Bool :=
  match value with
  | some (.str s) => s = text
  | _ => false

/-- `value is flag` for a truth value. -/
def isBool (value : Option Json) (flag : Bool) : Bool :=
  match value with
  | some (.bool b) => b = flag
  | _ => false

end Json

end ModelSwitch.Py
