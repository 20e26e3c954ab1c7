import AccessPolicy.Comparison

/-!
# The dialect of query filters

A store knows a predicate only by the JSON value that writes it. This module says what such a
value means to a store, without a look at predicates: an object is the conjunction of its
entries, the entry `OR` is the disjunction of its list, and every other entry is a clause on the
field it names. A clause that is no object asks for equality; the keys of a clause that is an
object are joined by conjunction. A key outside the dialect makes the whole value meaningless.

## Main definitions

* `Dialect.comparison?` — the comparisons a clause may name.
* `Dialect.clause?` — what a clause says of a field value.
* `Dialect.selects?` — whether a written predicate selects a record.
-/
namespace AccessPolicy.Dialect

/-- The comparison that a key of a clause asks for. Inequality has no key of its own; it is
written as a negation. -/
def comparison? : String → Option Comparison
  | "equals" => some .eq
  | "in" => some .oneOf
  | "notIn" => some .noneOf
  | "gt" => some .gt
  | "lt" => some .lt
  | "gte" => some .gte
  | "lte" => some .lte
  | "contains" => some .contains
  | _ => none

/-- What the key `mode` says. The only mode is that of `contains`, which ignores the case of
letters, and naming it restricts nothing. -/
def mode? : Json → Option Bool
  | .string "insensitive" => some true
  | _ => none

/-- Both of two answers, if both are meaningful. -/
def both (a b : Option Bool) : Option Bool := do
  let x ← a
  let y ← b
  pure (x && y)

/-- One of two answers, if both are meaningful. -/
def either (a b : Option Bool) : Option Bool := do
  let x ← a
  let y ← b
  pure (x || y)

mutual

/-- What a clause says of the value of its field, `none` if the clause has a key outside the
dialect. -/
def clause? (value : Option Json) : Json → Option Bool
  | .object keys => keys? value keys
  | v => some (Comparison.eq.holds value v)

/-- What the keys of a clause say together of the value of the field. -/
def keys? (value : Option Json) : List (String × Json) → Option Bool
  | [] => some true
  | (key, operand) :: rest =>
    let here :=
      match comparison? key with
      | some c => some (c.holds value operand)
      | none =>
        if key = "not" then (clause? value operand).map (!·)
        else if key = "mode" then mode? operand
        else none
    both here (keys? value rest)

end

mutual

/-- Whether a written predicate selects a record, `none` if the value is not of the dialect. -/
def selects? (record : Record) : Json → Option Bool
  | .object entries => entries? record entries
  | _ => none

/-- Whether the entries of a written predicate select a record together. -/
def entries? (record : Record) : List (String × Json) → Option Bool
  | [] => some true
  | (key, v) :: rest =>
    let here := if key = "OR" then disjunction? record v else clause? (record.get? key) v
    both here (entries? record rest)

/-- Whether a list of written predicates selects a record as a disjunction. -/
def disjunction? (record : Record) : Json → Option Bool
  | .array items => items? record items
  | _ => none

/-- Whether one of some written predicates selects a record. -/
def items? (record : Record) : List Json → Option Bool
  | [] => some false
  | v :: rest => either (selects? record v) (items? record rest)

end

end AccessPolicy.Dialect
