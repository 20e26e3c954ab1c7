import AccessPolicy.Number.Shortest

/-!
# Numbers of policy data

A number is an integer of 64 bits or a binary64 number, and it stays what it was written
as. Two numbers are compared after rounding both to binary64.

## Main definitions

* `Number` — an integer or a binary64 number.
* `Number.value` — what comparison sees: the rounded number, in units of `2⁻¹⁰⁷⁴`.
* `Number.same` — sameness inside arrays and objects, where the two kinds stay apart.
* `Numeral`, `Number.ofNumeral?` — a written number and its reading.
-/
namespace AccessPolicy

/-- A number of policy data. -/
inductive Number where
  /-- An integer. -/
  | int (n : Int)
  /-- A number with a fraction or an exponent, or an integer too large for 64 bits. -/
  | float (x : Binary64)
deriving DecidableEq

namespace Number

/-- The number after rounding to binary64, in units of `2⁻¹⁰⁷⁴`. -/
def value : Number → Int
  | int n => Binary64.roundInt n
  | float x => x.value

/-- Same kind and same number; the two zeros are the same. -/
def same : Number → Number → Bool
  | int a, int b => a = b
  | float x, float y => x.value = y.value
  | _, _ => false

/-- The text of a number. -/
def render : Number → String
  | int n => toString n
  | float x => x.render

end Number

/-! ## Written numbers -/

/-- A number as it is written. -/
structure Numeral where
  /-- Whether a minus stands in front. -/
  negative : Bool
  /-- The digits in front of the point. -/
  whole : List Char
  /-- The digits behind the point, if there is one. -/
  fraction : Option (List Char)
  /-- The written exponent, if there is one. -/
  exponent : Option Int
deriving DecidableEq

namespace Numeral

/-- Whether there is neither a point nor an exponent. -/
def isWhole (t : Numeral) : Bool := t.fraction.isNone && t.exponent.isNone

/-- The digits behind the point. -/
def places (t : Numeral) : List Char := t.fraction.getD []

/-- A significand with as many decimal digits behind its own as 64 bits hold, and how many digits
are left over. -/
def gather (significand : Nat) : List Char → Nat × Nat
  | [] => (significand, 0)
  | c :: rest =>
    let longer := 10 * significand + (c.toNat - '0'.toNat)
    if longer < Nat.pow 2 64 then gather longer rest else (significand, rest.length + 1)

/-- The significand of a numeral and the power of ten that it is multiplied by. Digits that do not
fit are passed over, and those in front of the point count in the power. -/
def parts (t : Numeral) : Nat × Int :=
  let (whole, zeros) := gather 0 t.whole
  let (significand, dropped) := gather whole t.places
  (significand, zeros - (t.places.length - dropped : Nat) + t.exponent.getD 0)

end Numeral

/-- Integers of 64 bits, signed or not, are kept as integers. -/
def isMachineInteger (n : Int) : Bool := -(Nat.pow 2 63 : Nat) ≤ n ∧ n < (Nat.pow 2 64 : Nat)

/-- The number that a numeral writes. A whole numeral is an integer if 64 bits hold it,
except that `-0` keeps its sign and so is a binary64 number. Every other numeral is a binary64
number; `none` says that it is too large. -/
def Number.ofNumeral? (t : Numeral) : Option Number :=
  let digits := Nat.ofDigitChars 10 t.whole 0
  let n : Int := if t.negative then -(digits : Int) else digits
  if t.isWhole ∧ isMachineInteger n ∧ ¬ (t.negative ∧ digits = 0) then some (.int n)
  else (Binary64.ofParts? t.negative t.parts.1 t.parts.2).map .float

end AccessPolicy
