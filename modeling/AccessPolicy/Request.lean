import AccessPolicy.Mode
import AccessPolicy.Principal
import AccessPolicy.Predicate.Basic

/-!
# Requests

A request is a principal that wants to take an action on one type of entity. Every permission of
the principal that grants the action on the type counts, and what each of them allows is united:
a field may be seen if one of them shows it, and a record if one of them accepts it.

## Main definitions

* `Request` — principal, action, entity type.
* `Request.permissions` — the permissions that count.
* `Request.isAllowed`, `Request.require` — the decision about the action.
* `Request.seesField`, `Request.accessibleFields`, `Request.project`, `Request.selection`,
  `Request.checkWrite` — the decisions about fields.
* `Request.seesRecord`, `Request.filterRecords`, `Request.predicate` — the decisions about
  records, here and by a store.
-/
namespace AccessPolicy

/-- A principal that wants to take an action on an entity type. -/
structure Request where
  /-- Who asks. -/
  principal : Principal
  /-- What is to be done. -/
  action : String
  /-- On which type of entity. -/
  entityType : String

/-- The fields that every record keeps if it is shown at all. -/
def systemFields : List String := ["id", "createdAt", "updatedAt"]

namespace Request

/-! ## The action -/

/-- The permission of a superuser, which restricts neither fields nor records. -/
def unrestricted : Permission := { entityType := "*", actions := ["*"] }

/-- The permissions that grant the action on the entity type. -/
def permissions (r : Request) : List Permission :=
  if r.principal.isSuperuser then [unrestricted]
  else r.principal.permissions.filter (·.grants r.action r.entityType)

/-- Whether the action is allowed. -/
def isAllowed (r : Request) : Bool :=
  r.principal.isSuperuser || r.principal.permissions.any (·.grants r.action r.entityType)

/-- What is asked for, in words. -/
def describe (r : Request) : String := r.action ++ " on " ++ r.entityType

/-- The gate in front of the action. -/
def require (r : Request) (mode : Mode) : Except Fault Unit :=
  mode.enforce r.isAllowed r.describe

/-! ## Fields -/

/-- Whether one of the permissions shows a field. -/
def seesField (r : Request) (field : String) : Bool :=
  r.permissions.any fun p => FieldPolicy.permits p.fields field

/-- The fields of a schema that some permission shows, each once, in the order in which the
permissions name them first. -/
def accessibleFields (r : Request) (schema : List String) : List String :=
  (r.permissions.flatMap fun p => FieldPolicy.accessible p.fields schema).eraseDups

/-- The part of a record that may be seen. Without any permission that is nothing at all; with
one the system fields are always kept. -/
def project (r : Request) (record : Record) : Record :=
  if r.permissions.isEmpty then .empty
  else record.filter fun field _ => systemFields.contains field || r.seesField field

/-- The parts of records that may be seen. -/
def projectAll (r : Request) (records : List Record) : List Record := records.map r.project

/-- The fields of a schema to ask a store for. There is always one: the identifier, if nothing
else may be seen. -/
def selection (r : Request) (schema : List String) : NameSet :=
  let names := (r.accessibleFields schema).filter schema.contains
  if names.isEmpty then .ofList ["id"] else .ofList names

/-- Checks the names of the fields that are about to be written. -/
def checkWrite (r : Request) (names : List String) : Except Fault Unit :=
  let rejected := names.filter (!r.seesField ·)
  if rejected.isEmpty then .ok () else .error (.fieldsNotWritable r.entityType rejected)

/-! ## Records -/

/-- The value that references in conditions are resolved in. -/
def context (r : Request) : Json := r.principal.context

/-- Whether one of the permissions accepts a record. -/
def seesRecord (r : Request) (record : Record) : Bool :=
  r.principal.isSuperuser ||
    r.permissions.any fun p => Conditions.accept p.conditions r.context record

/-- The records that some permission accepts, in their order. -/
def filterRecords (r : Request) (records : List Record) : List Record :=
  if r.principal.isSuperuser then records else records.filter r.seesRecord

/-- The predicate that selects the same records in a store. -/
def predicate (r : Request) : Predicate :=
  if r.principal.isSuperuser then .all
  else if r.permissions.isEmpty then .nothing
  else if r.permissions.any (·.isUnconditional) then .all
  else .anyOf (r.permissions.map fun p => Predicate.ofConditions p.conditions r.context)

end Request

end AccessPolicy
