/-!
# Time stamps

A time stamp of RFC 3339 names an instant: a calendar date, a time of day with any number of
fractional digits, and the offset of the clock that shows it. Stamps with different offsets
are compared as instants. A leap second lies between the second before it and the next minute.

## Main definitions

* `Instant` — seconds since the start of year zero, and nanoseconds.
* `Instant.parse?` — the instant of a time stamp.
* `Instant.compare` — the order of instants.
-/
namespace AccessPolicy

/-- A point in time. -/
structure Instant where
  /-- Whole seconds since the start of year zero, by a clock without offset. -/
  seconds : Int
  /-- Nanoseconds after that; a leap second counts from `10⁹` on. -/
  nanos : Nat
deriving DecidableEq

namespace Instant

/-- Earlier seconds first, then fewer nanoseconds. -/
protected def compare (a b : Instant) : Ordering :=
  (compareOfLessAndEq a.seconds b.seconds).then (compareOfLessAndEq a.nanos b.nanos)

/-! ## The calendar -/

/-- Leap years are the multiples of four, but of the centuries only those of four hundred. -/
def isLeapYear (year : Nat) : Bool := year % 4 = 0 ∧ (year % 100 ≠ 0 ∨ year % 400 = 0)

/-- The lengths of the months of a year. -/
def monthLengths (year : Nat) : List Nat :=
  [31, if isLeapYear year then 29 else 28, 31, 30, 31, 30, 31, 31, 30, 31, 30, 31]

/-- Whether a date is in the calendar. -/
def isDate (year month day : Nat) : Bool :=
  1 ≤ month ∧ 1 ≤ day ∧ ((monthLengths year)[month - 1]?).any (day ≤ ·)

/-- The days from the start of year zero to a date. -/
def dayNumber (year month day : Nat) : Nat :=
  365 * year + ((year + 3) / 4 - (year + 99) / 100 + (year + 399) / 400) +
    ((monthLengths year).take (month - 1)).foldl (· + ·) 0 + (day - 1)

/-! ## Reading -/

/-- The value of a decimal digit. -/
def digit? (c : Char) : Option Nat :=
  if '0' ≤ c ∧ c ≤ '9' then some (c.toNat - 48) else none

/-- A number of exactly `n` digits, and what follows it. -/
def digits? (n : Nat) (text : List Char) : Option (Nat × List Char) := do
  let values ← (text.take n).mapM digit?
  if values.length = n then
    some (values.foldl (fun total d => 10 * total + d) 0, text.drop n)
  else none

/-- What follows a character of the given ones. -/
def oneOf? (allowed : List Char) : List Char → Option (List Char)
  | [] => none
  | c :: rest => if c ∈ allowed then some rest else none

/-- The nanoseconds of a fraction, and what follows it. Digits past the ninth do not count. -/
def fraction? : List Char → Option (Nat × List Char)
  | '.' :: rest =>
    let digits := rest.takeWhile fun c => (digit? c).isSome
    if digits.isEmpty then none
    else do
      let (n, _) ← digits? 9 (digits ++ List.replicate 9 '0')
      some (n, rest.dropWhile fun c => (digit? c).isSome)
  | text => some (0, text)

/-- The seconds by which a clock is ahead. Nothing may follow. -/
def offset? : List Char → Option Int
  | ['Z'] => some 0
  | ['z'] => some 0
  | sign :: text => do
    let (hours, text) ← digits? 2 text
    let text ← oneOf? [':'] text
    let (minutes, text) ← digits? 2 text
    let ahead : Int := 3600 * hours + 60 * minutes
    if hours ≤ 23 ∧ minutes ≤ 59 ∧ text.isEmpty then
      if sign = '+' then some ahead
      else if sign = '-' ∨ sign = Char.ofNat 0x2212 then some (-ahead)
      else none
    else none
  | [] => none

/-- The instant of a time stamp: a date, a `T` or a blank, a time of day and an offset. -/
def parse? (s : String) : Option Instant := do
  let (year, text) ← digits? 4 s.toList
  let text ← oneOf? ['-'] text
  let (month, text) ← digits? 2 text
  let text ← oneOf? ['-'] text
  let (day, text) ← digits? 2 text
  let text ← oneOf? ['T', 't', ' '] text
  let (hour, text) ← digits? 2 text
  let text ← oneOf? [':'] text
  let (minute, text) ← digits? 2 text
  let text ← oneOf? [':'] text
  let (second, text) ← digits? 2 text
  let (nanos, text) ← fraction? text
  let ahead ← offset? text
  if isDate year month day ∧ hour ≤ 23 ∧ minute ≤ 59 ∧ second ≤ 60 then
    let day : Int := dayNumber year month day
    some
      { seconds := 86400 * day + 3600 * hour + 60 * minute + min second 59 - ahead
        nanos := if second = 60 then 1000000000 + nanos else nanos }
  else none

end Instant

end AccessPolicy
