import AccessPolicy.Number.Binary64

/-!
# The shortest decimal that reads back

A binary64 number is written with as few decimal digits as still round to it, and among
the numerals of that length with the one nearest to it.

## Main definitions

* `Binary64.Interval` — the magnitudes that round to a given one, ends included exactly if
  its last binary digit is zero.
* `Binary64.shortest` — the digits and the power of ten.
* `Binary64.render` — the text: positional where the first digit stands between `10⁻⁵` and
  `10¹⁵`, scientific elsewhere, never without a fraction or an exponent.
-/
namespace AccessPolicy.Binary64

/-! ## The magnitudes that round to a number -/

/-- The magnitudes that round to a given one, as bounds in quarters of a unit. -/
structure Interval where
  /-- The lower end. -/
  low : Nat
  /-- The upper end. -/
  high : Nat
  /-- Whether the ends belong to it. -/
  closed : Bool

/-- The interval around the positive magnitude `units`. The step downwards is half as wide
below a power of two, unless the numbers there are spaced as closely as the format can. -/
def intervalAround (units : Nat) : Interval :=
  let step := Nat.pow 2 (units.log2 - 52)
  let narrow := units = Nat.pow 2 units.log2 ∧ 1 < step
  { low := 4 * units - if narrow then step else 2 * step
    high := 4 * units + 2 * step
    closed := units / step % 2 = 0 }

/-- Whether the quotient `n / d` (in units) lies in the interval. -/
def Interval.holds (i : Interval) (n d : Nat) : Bool :=
  if i.closed then i.low * d ≤ 4 * n ∧ 4 * n ≤ i.high * d
  else i.low * d < 4 * n ∧ 4 * n < i.high * d

/-! ## Digits -/

/-- The decimal exponent of the first digit of the positive magnitude `units`. -/
def decimalExponent (units : Nat) : Int :=
  if Nat.pow 2 1074 ≤ units then decimalLength (units / Nat.pow 2 1074) - 1
  else -(decimalLength ((Nat.pow 2 1074 - 1) / units) : Int)

/-- `c · 10 ^ e` units of one, as a quotient of numbers of units `2⁻¹⁰⁷⁴`. -/
def scaled (c : Nat) (e : Int) : Nat × Nat :=
  (c * Nat.pow 10 e.toNat * Nat.pow 2 1074, Nat.pow 10 (-e).toNat)

/-- The numeral of `length` digits that lies in the interval around `units` and is nearest
to it, with its power of ten, if there is one. Of all numerals of one length only the two
neighbours of the number can be nearest; of two that are equally near the even one counts. -/
def candidate? (units : Nat) (length : Nat) : Option (Nat × Int) :=
  let i := intervalAround units
  let e := decimalExponent units - length + 1
  let (n, d) := scaled 1 e
  let c := units * d / n
  let below := i.holds (scaled c e).1 d
  let above := i.holds (scaled (c + 1) e).1 d
  let twice := 2 * (units * d % n)
  if below ∧ (¬ above ∨ twice < n ∨ (twice = n ∧ c % 2 = 0)) then some (c, e)
  else if above then some (c + 1, e)
  else none

/-- The fewest digits that read back as the positive magnitude `units`, and their power of
ten. Seventeen digits always do. -/
def shortest (units : Nat) : Nat × Int :=
  ((List.range 17).findSome? fun i => candidate? units (i + 1)).getD (0, 0)

/-! ## Text -/

/-- Smallest exponent of the first digit that is still written positionally. -/
def leastPositional : Int := -5

/-- Largest exponent of the first digit that is still written positionally. -/
def greatestPositional : Int := 15

/-- A sign and decimal digits. -/
def signedDecimal (e : Int) : String := (if e < 0 then "-" else "+") ++ toString e.natAbs

/-- Writes digits whose first one stands at the power `e` of ten. -/
def layOut (digits : List Char) (e : Int) : List Char :=
  let zeros (n : Int) : List Char := List.replicate n.toNat '0'
  if leastPositional ≤ e ∧ e ≤ greatestPositional then
    if e < 0 then '0' :: '.' :: zeros (-e - 1) ++ digits
    else
      let fraction := digits.drop (e + 1).toNat
      digits.take (e + 1).toNat ++ zeros (e + 1 - digits.length) ++
        '.' :: (if fraction.isEmpty then ['0'] else fraction)
  else
    let fraction := digits.drop 1
    digits.take 1 ++ (if fraction.isEmpty then [] else '.' :: fraction) ++
      'e' :: (signedDecimal e).toList

/-- The digits of a positive number without the zeros at its end. -/
def significantDigits (c : Nat) : List Char :=
  ((Nat.toDigits 10 c).reverse.dropWhile (· = '0')).reverse

/-- The text of a positive magnitude. -/
def renderMagnitude (units : Nat) : List Char :=
  let (c, e) := shortest units
  layOut (significantDigits c) (e + decimalLength c - 1)

/-- The text of a number. -/
def render (x : Binary64) : String :=
  String.ofList ((if x.negative then ['-'] else []) ++
    if x.units = 0 then ['0', '.', '0'] else renderMagnitude x.units)

end AccessPolicy.Binary64
