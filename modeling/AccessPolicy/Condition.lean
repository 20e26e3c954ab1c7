import AccessPolicy.Comparison
import AccessPolicy.Operand
import AccessPolicy.Json.Decoder

/-!
# Conditions on records

A condition compares one field of a record with an operand. In policy data it is an object with
the operator as its only key. A condition that is written in any other way gets an unknown
operator, so that malformed policy data denies and never fails to load.

## Main definitions

* `Condition` — an operator and an operand.
* `Condition.ofJson`, `Condition.toJson` — the form in policy data.
* `Condition.accepts` — whether a field value passes in a context.
* `Conditions`, `Conditions.accept` — a condition for each of some fields.
-/
namespace AccessPolicy

/-- A comparison of one field with an operand. -/
structure Condition where
  /-- How to compare. -/
  operator : Operator
  /-- What to compare with. -/
  operand : Operand

namespace Condition

/-- The condition written by a value. The operator of a value of the wrong form is unknown, and
its name tells the kind of the value or the keys of the object. -/
def ofJson : Json → Condition
  | .object [(name, expected)] => ⟨.ofName name, .ofJson expected⟩
  | .object fields =>
    ⟨.unknown ("+".intercalate (fields.map Prod.fst)), .literal (.object fields)⟩
  | v => ⟨.unknown ("<" ++ v.kindName ++ ">"), .literal v⟩

/-- The value that writes a condition. -/
def toJson (c : Condition) : Json := .object [(c.operator.name, c.operand.toJson)]

/-- Whether the value of a field, `none` if the field is absent, passes in a context. An unknown
operator and an operand that leads nowhere deny. -/
def accepts (c : Condition) (context : Json) (value : Option Json) : Bool :=
  match c.operator with
  | .unknown _ => false
  | .known comparison =>
    match c.operand.resolve context with
    | none => false
    | some expected => comparison.holds value expected

/-- A condition inside a document. -/
def decoder : Decoder Condition := fun p d => ofJson <$> Decoder.json p d

end Condition

/-- The keys that combine query predicates. No field of these names can be conditioned on. -/
def reservedNames : List String := ["OR", "AND", "NOT"]

/-- Whether a field name is reserved. -/
def isReserved (field : String) : Bool := reservedNames.contains field

/-- A condition for each of some fields. -/
abbrev Conditions := Dict Condition

namespace Conditions

/-- Whether a record passes every condition in a context. No conditions at all pass; a condition
on a reserved name does not. -/
def accept (conditions : Option Conditions) (context : Json) (record : Record) : Bool :=
  conditions.all fun cs =>
    cs.all fun field c => !isReserved field && c.accepts context (record.get? field)

/-- The records that pass, in their order. -/
def filter (conditions : Option Conditions) (context : Json) (records : List Record) :
    List Record :=
  records.filter (accept conditions context)

end Conditions

end AccessPolicy
