import AccessPolicy.Proofs.Answers
import AccessPolicy.Proofs.Predicate.Agreement

/-!
# Requests that get the same answers

A request looks at the permissions that count in three ways only: whether there are any, at their
field policies, and at the predicate that their conditions amount to. Two requests for the same
action on the same type that agree in these three get the same answers, and the answers agree in
every detail, down to the order of fields and the structure of the predicate.

## Main definitions

* `Request.SameAnswers` — nobody can tell two requests apart.

## Main statements

* `Request.sameAnswers_of_fields` — field policies and the predicate decide about all answers.
-/
namespace AccessPolicy.Request

/-- Two requests get the same answers, down to the order of fields and the structure of the
predicate. -/
structure SameAnswers (r s : Request) : Prop where
  /-- The permissions that count are the same as they are written. -/
  permissions : s.permissions.map Permission.toJson = r.permissions.map Permission.toJson
  /-- The action is allowed to both or to none. -/
  isAllowed : s.isAllowed = r.isAllowed
  /-- The gate has the same result in every mode. -/
  require : ∀ mode, s.require mode = r.require mode
  /-- The same fields are seen. -/
  seesField : ∀ field, s.seesField field = r.seesField field
  /-- The same fields are listed, in the same order. -/
  accessibleFields : ∀ schema, s.accessibleFields schema = r.accessibleFields schema
  /-- The same part is left of a record. -/
  project : ∀ record, s.project record = r.project record
  /-- The same parts are left of records. -/
  projectAll : ∀ records, s.projectAll records = r.projectAll records
  /-- A store is asked for the same fields. -/
  selection : ∀ schema, s.selection schema = r.selection schema
  /-- The write check has the same result, down to the names it reports. -/
  checkWrite : ∀ names, s.checkWrite names = r.checkWrite names
  /-- The same records are seen. -/
  seesRecord : ∀ record, s.seesRecord record = r.seesRecord record
  /-- The same records are kept. -/
  filterRecords : ∀ records, s.filterRecords records = r.filterRecords records
  /-- The predicate is the same. -/
  predicate : s.predicate = r.predicate

variable {r s : Request}

/-- **Field policies and the predicate decide about all answers.** -/
theorem sameAnswers_of_fields (haction : s.action = r.action)
    (htype : s.entityType = r.entityType)
    (hwritten : s.permissions.map Permission.toJson = r.permissions.map Permission.toJson)
    (hpolicies : s.permissions.map Permission.fields = r.permissions.map Permission.fields)
    (hpredicate : s.predicate = r.predicate) : r.SameAnswers s := by
  have hnone : s.permissions = [] ↔ r.permissions = [] := by
    rw [← List.map_eq_nil_iff (f := Permission.fields), hpolicies, List.map_eq_nil_iff]
  have hallowed : s.isAllowed = r.isAllowed := by
    rw [Bool.eq_iff_iff, isAllowed_iff, isAllowed_iff, ne_eq, ne_eq, hnone]
  have hfield : ∀ field, s.seesField field = r.seesField field := by
    intro field
    have hany : ∀ q : Request, q.seesField field =
        (q.permissions.map Permission.fields).any (FieldPolicy.permits · field) := by
      intro q
      rw [seesField, List.any_map]
      rfl
    rw [hany, hany, hpolicies]
  have hlisted : ∀ schema, s.accessibleFields schema = r.accessibleFields schema := by
    intro schema
    have hflat : ∀ q : Request, q.accessibleFields schema =
        ((q.permissions.map Permission.fields).flatMap
          (FieldPolicy.accessible · schema)).eraseDups := by
      intro q
      rw [accessibleFields, List.flatMap_map]
    rw [hflat, hflat, hpolicies]
  have hproject : ∀ record, s.project record = r.project record := by
    intro record
    simp only [project, hfield, List.isEmpty_iff, hnone]
  have hrecord : ∀ record, s.seesRecord record = r.seesRecord record := by
    intro record
    rw [← selects_predicate, hpredicate, selects_predicate]
  constructor
  case permissions => exact hwritten
  case isAllowed => exact hallowed
  case require =>
    intro mode
    rw [require, require, hallowed, describe, describe, haction, htype]
  case seesField => exact hfield
  case accessibleFields => exact hlisted
  case project => exact hproject
  case projectAll =>
    intro records
    rw [projectAll, projectAll, funext hproject]
  case selection =>
    intro schema
    rw [selection, selection, hlisted]
  case checkWrite =>
    intro names
    simp only [checkWrite, hfield, htype]
  case seesRecord => exact hrecord
  case filterRecords =>
    intro records
    rw [filterRecords_eq_filter, filterRecords_eq_filter, funext hrecord]
  case predicate => exact hpredicate

end AccessPolicy.Request
