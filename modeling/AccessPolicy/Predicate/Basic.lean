import AccessPolicy.Condition

/-!
# Query predicates

The records that conditions accept can be selected by a store. For that, conditions are turned
into a predicate: filters on fields, combined by conjunction and disjunction, whose expected
values are known. A predicate can be written as a value in the common dialect of query filters,
and it can be applied to a record here.

## Main definitions

* `Filter`, `Filter.ofOperator?` — a comparison of one field with a value.
* `Predicate` — everything, nothing, all of some filters, or one of some predicates.
* `Predicate.anyOf` — the disjunction of predicates, in a short form.
* `Predicate.ofConditions` — the predicate of a set of conditions in a context.
* `Predicate.selects`, `Predicate.select`, `Predicate.toJson` — its uses.
-/
namespace AccessPolicy

/-! ## Filters -/

/-- A comparison of one field with a value. -/
structure Filter where
  /-- How to compare. -/
  comparison : Comparison
  /-- What to compare with. -/
  value : Json

namespace Filter

/-- Whether some field value can pass a comparison with the value: only numbers and texts are
ordered, and only a text is contained in something. -/
def isSatisfiable : Comparison → Json → Bool
  | .gt, v | .lt, v | .gte, v | .lte, v =>
    match v with
    | .number _ => true
    | .string _ => true
    | _ => false
  | .contains, v =>
    match v with
    | .string _ => true
    | _ => false
  | _, _ => true

/-- The value a filter holds for an expected one: a list, if the comparison is with a list. -/
def listValue : Comparison → Json → Json
  | .oneOf, v | .noneOf, v => .array v.members
  | _, v => v

/-- The filter for an operator and an expected value. There is none for an unknown operator and
for a value that no field value can pass. -/
def ofOperator? : Operator → Json → Option Filter
  | .unknown _, _ => none
  | .known c, v => if isSatisfiable c v then some ⟨c, listValue c v⟩ else none

/-- Whether the value of a field passes. -/
def passes (f : Filter) (value : Option Json) : Bool := f.comparison.holds value f.value

/-- The value that writes a filter. A value alone means equality. Arrays and objects are never
written alone, since they would read as filters. -/
def toJson (f : Filter) : Json :=
  match f.comparison with
  | .eq => if f.value.isStructured then .object [("equals", f.value)] else f.value
  | .ne =>
    .object [("not", if f.value.isStructured then .object [("equals", f.value)] else f.value)]
  | .contains => .object [("contains", f.value), ("mode", .string "insensitive")]
  | c => .object [(c.name, f.value)]

end Filter

/-! ## Predicates -/

/-- A selection of records. -/
inductive Predicate where
  /-- Every record. -/
  | all
  /-- No record. -/
  | nothing
  /-- The records that pass every filter. -/
  | every (filters : Dict Filter)
  /-- The records that one of the predicates selects. -/
  | either (branches : List Predicate)
deriving Inhabited

/-- The identifier that no stored record carries. Asking for it is asking for nothing. -/
def noAccessId : String := "__no_access__"

namespace Predicate

/-- Whether the predicate is the one that selects every record. -/
def isAll : Predicate → Bool
  | all => true
  | _ => false

/-- Whether the predicate is the one that selects no record. -/
def isNothing : Predicate → Bool
  | nothing => true
  | _ => false

mutual

/-- Whether the predicate selects a record. -/
def selects (record : Record) : Predicate → Bool
  | all => true
  | nothing => false
  | every filters => filters.all fun field f => f.passes (record.get? field)
  | either branches => selectsAny record branches

/-- Whether one of the predicates selects a record. -/
def selectsAny (record : Record) : List Predicate → Bool
  | [] => false
  | p :: rest => selects record p || selectsAny record rest

end

/-- The records that the predicate selects, in their order. -/
def select (p : Predicate) (records : List Record) : List Record :=
  records.filter fun r => p.selects r

mutual

/-- The value that writes a predicate. -/
def toJson : Predicate → Json
  | all => .object []
  | nothing => .object [("id", .string noAccessId)]
  | every filters => .ofDict (filters.map fun _ f => f.toJson)
  | either branches => .object [("OR", .array (toItems branches))]

/-- The values that write predicates. -/
def toItems : List Predicate → List Json
  | [] => []
  | p :: rest => toJson p :: toItems rest

end

/-! ## Disjunction -/

/-- What a predicate adds to a disjunction: nothing adds no branch, a disjunction adds its own
branches, and any other predicate adds itself. -/
def branches : Predicate → List Predicate
  | nothing => []
  | either ps => ps
  | p => [p]

/-- The disjunction of branches; a single one stands alone. -/
def ofBranches : List Predicate → Predicate
  | [] => nothing
  | [p] => p
  | ps => either ps

/-- The predicate that selects what one of some predicates selects. -/
def anyOf (ps : List Predicate) : Predicate :=
  if ps.any isAll then all else ofBranches (ps.flatMap branches)

/-! ## The predicate of conditions -/

/-- The filter of a condition on a field. There is none if the condition denies every record:
if the field is reserved, the operator unknown, the operand leads nowhere or to a value that no
field value can pass. -/
def filter? (context : Json) (field : String) (c : Condition) : Option Filter :=
  if isReserved field then none
  else (c.operand.resolve context).bind (Filter.ofOperator? c.operator)

/-- The predicate of a set of conditions in a context. It selects every record if there are no
conditions, and none if one of the conditions denies every record. -/
def ofConditions (conditions : Option Conditions) (context : Json) : Predicate :=
  match conditions with
  | none => all
  | some cs =>
    if cs.isEmpty then all
    else
      match cs.mapM? (filter? context) with
      | some filters => every filters
      | none => nothing

end Predicate

end AccessPolicy
