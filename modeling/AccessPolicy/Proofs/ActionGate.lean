import AccessPolicy.Proofs.Answers
import AccessPolicy.Proofs.Predicate.Agreement

/-!
# No data without the action

Whether an action is allowed is decided by one walk over the permissions of a principal, and every
other decision walks over them again. All of them treat the case that no permission counts on
their own: some stop early, some walk over an empty list and some test each record or field. The
action is the gate for all: if it is not allowed, no operation gives away a field or a record, and
if it is, every operation has a permission to go by.

The link between the walks is that an action is allowed exactly if some permission counts, so each
operation is looked at once, for a request without any permission.

## Main definitions

* `Request.IsRefused` — every operation denies.
* `Request.IsAdmitted` — some permission counts, the gate is open and system fields are kept.

## Main statements

* `Request.isRefused_of_permissions_eq_nil` — without a permission every operation denies.
* `Request.isAdmitted_of_permissions_ne_nil` — with a permission the gate is open.
* `Request.isAllowed_decides` — which of the two it is, the action decides.
-/
namespace AccessPolicy.Request

variable {r : Request}

/-- Every operation denies what it is asked for. -/
structure IsRefused (r : Request) : Prop where
  /-- No permission counts. -/
  permissions : r.permissions = []
  /-- Where denials are enforced, the gate denies. -/
  require : r.require .strict = .error (.forbidden (r.action ++ " on " ++ r.entityType))
  /-- No field is seen. -/
  seesField : ∀ field, r.seesField field = false
  /-- No field is listed. -/
  accessibleFields : ∀ schema, r.accessibleFields schema = []
  /-- A store is asked for nothing but the identifier. -/
  selection : ∀ schema, r.selection schema = .ofList ["id"]
  /-- Nothing is left of a record, not even its system fields. -/
  project : ∀ record, r.project record = .empty
  /-- Nothing is left of any of some records, but there is a row for each. -/
  projectAll : ∀ records, r.projectAll records = List.replicate records.length .empty
  /-- Every name is rejected for writing, in the order in which the names are given. -/
  checkWrite : ∀ names, r.checkWrite names =
    if names = [] then .ok () else .error (.fieldsNotWritable r.entityType names)
  /-- No record is seen. -/
  seesRecord : ∀ record, r.seesRecord record = false
  /-- No record is kept. -/
  filterRecords : ∀ records, r.filterRecords records = []
  /-- The predicate is the one that selects nothing. -/
  predicate : r.predicate = .nothing

/-- The gate is open, and a record keeps its system fields. -/
structure IsAdmitted (r : Request) : Prop where
  /-- Some permission counts. -/
  permissions : r.permissions ≠ []
  /-- The gate lets the action through, whether denials are enforced or not. -/
  require : ∀ mode, r.require mode = .ok ()
  /-- A system field of a record is kept with its value, if the record has it. -/
  project : ∀ record, ∀ field ∈ ["id", "createdAt", "updatedAt"],
    (r.project record).get? field = record.get? field

/-! ## Without a permission -/

theorem isAllowed_eq_false_iff : r.isAllowed = false ↔ r.permissions = [] := by
  rw [← Bool.not_eq_true, isAllowed_iff, not_not]

/-- A superuser always has a permission that counts. -/
theorem isSuperuser_eq_false_of_permissions_eq_nil (h : r.permissions = []) :
    r.principal.isSuperuser = false := by
  rw [← Bool.not_eq_true]
  intro hsuper
  simp [permissions, hsuper] at h

/-- **Without a permission every operation denies.** -/
theorem isRefused_of_permissions_eq_nil (h : r.permissions = []) : r.IsRefused := by
  have hallowed : r.isAllowed = false := isAllowed_eq_false_iff.2 h
  have hfield : ∀ field, r.seesField field = false := by
    intro field
    rw [seesField, h, List.any_nil]
  have hlisted : ∀ schema, r.accessibleFields schema = [] := by
    intro schema
    rw [accessibleFields, h, List.flatMap_nil, List.eraseDups_nil]
  have hproject : ∀ record, r.project record = .empty := by
    intro record
    rw [project, h, List.isEmpty_nil, if_pos rfl]
  have hrecord : ∀ record, r.seesRecord record = false := by
    intro record
    rw [seesRecord, isSuperuser_eq_false_of_permissions_eq_nil h, h, List.any_nil, Bool.or_false]
  constructor
  case permissions => exact h
  case require => simp [require, Mode.enforce, hallowed, describe]
  case seesField => exact hfield
  case accessibleFields => exact hlisted
  case selection =>
    intro schema
    simp only [selection, hlisted, List.filter_nil, List.isEmpty_nil, if_true]
  case project => exact hproject
  case projectAll =>
    intro records
    rw [projectAll, funext hproject, List.map_const']
  case checkWrite =>
    intro names
    have hrejected : names.filter (!r.seesField ·) = names := by
      rw [List.filter_eq_self]
      intro name _
      rw [hfield, Bool.not_false]
    simp only [checkWrite, hrejected, List.isEmpty_iff]
  case seesRecord => exact hrecord
  case filterRecords =>
    intro records
    rw [filterRecords_eq_filter, List.filter_eq_nil_iff]
    intro record _
    rw [hrecord]
    exact Bool.false_ne_true
  case predicate =>
    rw [predicate_eq_anyOf, h, List.map_nil]
    rfl

/-! ## With a permission -/

/-- **With a permission the gate is open** in every mode, and system fields are kept. -/
theorem isAdmitted_of_permissions_ne_nil (h : r.permissions ≠ []) : r.IsAdmitted := by
  have hallowed : r.isAllowed = true := isAllowed_iff.2 h
  constructor
  case permissions => exact h
  case require =>
    intro mode
    simp [require, Mode.enforce, hallowed]
  case project =>
    intro record field hsystem
    apply Option.ext
    intro value
    rw [get?_project_eq_some_iff]
    exact ⟨fun hkept => hkept.2.1, fun hvalue => ⟨h, hvalue, .inl hsystem⟩⟩

/-- **The action decides about all data.** If it is not allowed, no permission counts, the gate
denies where denials are enforced, and no operation gives away a field or a record; if it is
allowed, some permission counts, the gate is open in every mode and each record keeps its system
fields. No request is of both kinds. -/
theorem isAllowed_decides (r : Request) :
    (r.isAllowed = false ↔ r.IsRefused) ∧ (r.isAllowed = true ↔ r.IsAdmitted) := by
  constructor
  · constructor
    · intro hdenied
      exact isRefused_of_permissions_eq_nil (isAllowed_eq_false_iff.1 hdenied)
    · intro hrefused
      exact isAllowed_eq_false_iff.2 hrefused.permissions
  · constructor
    · intro hallowed
      exact isAdmitted_of_permissions_ne_nil (isAllowed_iff.1 hallowed)
    · intro hadmitted
      exact isAllowed_iff.2 hadmitted.permissions

end AccessPolicy.Request
