import AccessPolicy.Condition
import AccessPolicy.FieldPolicy

/-!
# Permissions

A permission grants actions on one type of entity. It may be narrowed to some fields by a field
policy and to some records by conditions.

## Main definitions

* `Permission` — entity type, actions, field policy and conditions.
* `Permission.grants` — whether it grants an action on an entity type.
* `Permission.withCondition` — adds a condition on a field.
* `Permission.toJson`, `Permission.decoder` — the form in snapshots.
-/
namespace AccessPolicy

/-- A grant of actions on one entity type. -/
structure Permission where
  /-- The type of the entities. -/
  entityType : String := ""
  /-- The actions. -/
  actions : List String := []
  /-- Which fields may be seen; all of them if absent. -/
  fields : Option FieldPolicy := none
  /-- Which records may be seen; all of them if absent. -/
  conditions : Option Conditions := none

namespace Permission

/-- A permission with one more condition. A condition on the same field is replaced. -/
def withCondition (p : Permission) (field : String) (c : Condition) : Permission :=
  { p with conditions := some ((p.conditions.getD .empty).insert field c) }

/-- A permission with a field policy. -/
def withFields (p : Permission) (policy : FieldPolicy) : Permission :=
  { p with fields := some policy }

/-- Whether the permission grants an action on an entity type. -/
def grants (p : Permission) (action entityType : String) : Bool :=
  p.entityType = entityType && p.actions.contains action

/-- Whether the permission does not restrict records: its conditions are absent or empty. -/
def isUnconditional (p : Permission) : Bool := p.conditions.all (·.isEmpty)

/-! ## The form in snapshots -/

/-- The value that writes a set of conditions. -/
def conditionsJson (conditions : Conditions) : Json :=
  .ofDict (conditions.map fun _ c => c.toJson)

/-- The value that writes a permission. -/
def toJson (p : Permission) : Json :=
  .ofFields
    [ ("entityType", .string p.entityType),
      ("actions", .ofTexts p.actions),
      ("fields", (p.fields.map FieldPolicy.toJson).getD .null),
      ("conditions", (p.conditions.map conditionsJson).getD .null) ]

/-- A permission whose fields are still being read. -/
structure Draft where
  entityType : Option String := none
  actions : Option (List String) := none
  fields : Option (Option FieldPolicy) := none
  conditions : Option (Option Conditions) := none

/-- The fields of a permission. -/
def layout : Layout Draft :=
  [ .of "entityType" Draft.entityType (fun s v => { s with entityType := some v })
      (.orDefault "" .text),
    .of "actions" Draft.actions (fun s v => { s with actions := some v })
      (.orDefault [] (.list .text)),
    .of "fields" Draft.fields (fun s v => { s with fields := some v })
      (.optional FieldPolicy.decoder),
    .of "conditions" Draft.conditions (fun s v => { s with conditions := some v })
      (.optional (.dict Condition.decoder)) ]

/-- The permission of a draft. Every field has a default. -/
def Draft.finish (s : Draft) : Permission :=
  { entityType := s.entityType.getD ""
    actions := s.actions.getD []
    fields := s.fields.join
    conditions := s.conditions.join }

/-- A permission inside a document. -/
def decoder : Decoder Permission := fun p d => Draft.finish <$> layout.read {} p d

end Permission

end AccessPolicy
