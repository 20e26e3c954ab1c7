import AccessPolicy.Json.Basic
import AccessPolicy.Instant
import AccessPolicy.Text.Lower

/-!
# The table of comparisons

A condition compares the value of a field with an expected value. There are nine comparisons,
and one table gives their meaning, for conditions and for query filters alike.

## Main definitions

* `Comparison` — the nine comparisons.
* `Comparison.holds` — the table.
* `Json.equal`, `Json.compare?` — equality and order of values.
* `Operator` — a comparison, or a name that stands for none.
-/
namespace AccessPolicy

/-! ## Equality and order of values -/

namespace Json

/-- Equality of a field value and an expected one: numbers are equal if they round to the same
binary64 number; all other values are equal if they are the same. -/
def equal : Json → Json → Bool
  | number a, number b => a.value = b.value
  | a, b => a.same b

/-- The order of two texts: as instants if both are time stamps, else character by character. -/
def compareTexts (a b : String) : Ordering :=
  match Instant.parse? a, Instant.parse? b with
  | some x, some y => x.compare y
  | _, _ => compareOfLessAndEq a b

/-- The order of two numbers or of two texts. No other values are ordered. -/
def compare? : Json → Json → Option Ordering
  | number a, number b => some (compareOfLessAndEq a.value b.value)
  | string a, string b => some (compareTexts a b)
  | _, _ => none

/-- The values listed by an expected value; a value that is no array lists itself. -/
def members : Json → List Json
  | array items => items
  | v => [v]

end Json

/-! ## Comparisons -/

/-- The ways to compare a field value with an expected one. -/
inductive Comparison where
  /-- The values are equal. -/
  | eq
  /-- The values are not equal. -/
  | ne
  /-- The field value is one of those that are listed. -/
  | oneOf
  /-- The field value is none of those that are listed. -/
  | noneOf
  /-- The field value is greater. -/
  | gt
  /-- The field value is less. -/
  | lt
  /-- The field value is not less. -/
  | gte
  /-- The field value is not greater. -/
  | lte
  /-- The field value contains the expected text, whatever the case of letters. -/
  | contains
deriving DecidableEq

namespace Comparison

/-- All comparisons. -/
def all : List Comparison := [eq, ne, oneOf, noneOf, gt, lt, gte, lte, contains]

/-- The name of a comparison in policy data. -/
def name : Comparison → String
  | eq => "eq"
  | ne => "ne"
  | oneOf => "in"
  | noneOf => "notIn"
  | gt => "gt"
  | lt => "lt"
  | gte => "gte"
  | lte => "lte"
  | contains => "contains"

/-- Whether the value of a field is equal to an expected one; an absent field is equal to
nothing. -/
def equals (value : Option Json) (expected : Json) : Bool :=
  value.any (·.equal expected)

/-- Whether the value of a field is equal to one that is listed. -/
def listed (value : Option Json) (expected : Json) : Bool :=
  value.any fun v => expected.members.any v.equal

/-- Whether the value of a field is ordered against an expected one in an accepted way. -/
def ordered (value : Option Json) (expected : Json) (accept : Ordering → Bool) : Bool :=
  (value.bind (·.compare? expected)).any accept

/-- The table: whether the value of a field, `none` if the field is absent, compares with an
expected value as it should. -/
def holds : Comparison → Option Json → Json → Bool
  | eq, value, expected => equals value expected
  | ne, value, expected => !equals value expected
  | oneOf, value, expected => listed value expected
  | noneOf, value, expected => !listed value expected
  | gt, value, expected => ordered value expected (· = .gt)
  | lt, value, expected => ordered value expected (· = .lt)
  | gte, value, expected => ordered value expected (· ≠ .lt)
  | lte, value, expected => ordered value expected (· ≠ .gt)
  | contains, some (.string s), .string t => Text.containsFold s t
  | contains, _, _ => false

end Comparison

/-! ## Operators -/

/-- The operator of a condition. -/
inductive Operator where
  /-- A comparison of the table. -/
  | known (c : Comparison)
  /-- Anything else found in policy data. It never holds. -/
  | unknown (name : String)
deriving DecidableEq

namespace Operator

/-- The operator with a name. -/
def ofName (name : String) : Operator :=
  match Comparison.all.find? (·.name = name) with
  | some c => known c
  | none => unknown name

/-- The name of an operator. -/
def name : Operator → String
  | known c => c.name
  | unknown name => name

/-- Whether the operator is a comparison of the table. -/
def isKnown : Operator → Bool
  | known _ => true
  | unknown _ => false

/-- Whether the value of a field passes the operator against an expected value. -/
def holds : Operator → Option Json → Json → Bool
  | known c, value, expected => c.holds value expected
  | unknown _, _, _ => false

end Operator

end AccessPolicy
