import AccessPolicy.Proofs.Dict
import AccessPolicy.Request

/-!
# What the answers of a request say

Each decision of a request is stated here once in terms of the permissions that count and of the
fields that may be seen, so that later proofs do not open its definition.

## Main statements

* `Request.isAllowed_iff` — an action is allowed if some permission counts.
* `Request.project_eq_filter`, `Request.get?_project_eq_some_iff`, `Request.project_eq_self` — what
  is left of a record.
* `Request.checkWrite_eq_ok_iff`, `Request.checkWrite_eq_error_iff` — when the write check fails,
  and what it reports.
-/
namespace AccessPolicy

namespace Request

variable {r : Request}

/-- An action is allowed if some permission counts. -/
theorem isAllowed_iff : r.isAllowed = true ↔ r.permissions ≠ [] := by
  rw [isAllowed, permissions]
  by_cases hsuper : r.principal.isSuperuser = true
  · simp [hsuper]
  · simp [hsuper, List.filter_eq_nil_iff]

/-- Where a field may be seen, some permission counts. -/
theorem permissions_ne_nil {field : String} (h : r.seesField field = true) :
    r.permissions ≠ [] := by
  obtain ⟨p, hp, -⟩ := List.any_eq_true.1 h
  exact List.ne_nil_of_mem hp

/-- If any permission counts, a test of each field by itself tells what is left of a record. -/
theorem project_eq_filter (h : r.permissions ≠ []) (record : Record) :
    r.project record =
      record.filter fun field _ => systemFields.contains field || r.seesField field := by
  rw [project, if_neg (by simpa using h)]

/-- What is left of a record: the values in system fields and in fields that may be seen, if any
permission counts. -/
theorem get?_project_eq_some_iff {record : Record} {field : String} {value : Json} :
    (r.project record).get? field = some value ↔
      r.permissions ≠ [] ∧ record.get? field = some value ∧
        (field ∈ systemFields ∨ r.seesField field = true) := by
  by_cases hnone : r.permissions = []
  · simp [project, hnone]
  · rw [project_eq_filter hnone, Dict.get?_filter, Option.filter_eq_some_iff, Bool.or_eq_true,
      List.contains_iff_mem]
    simp [hnone]

/-- A record all of whose fields may be seen is left as it is. -/
theorem project_eq_self {record : Record} (h : ∀ field ∈ record.keys, r.seesField field = true) :
    r.project record = record := by
  apply Dict.ext_value
  intro field value
  rw [get?_project_eq_some_iff]
  constructor
  · rintro ⟨-, hvalue, -⟩
    exact hvalue
  · intro hvalue
    have hsees : r.seesField field = true := h field (Dict.mem_keys.2 ⟨value, hvalue⟩)
    exact ⟨permissions_ne_nil hsees, hvalue, .inr hsees⟩

/-- The write check succeeds if all names may be seen. -/
theorem checkWrite_eq_ok_iff {names : List String} :
    r.checkWrite names = .ok () ↔ ∀ name ∈ names, r.seesField name = true := by
  have hseen : names.filter (!r.seesField ·) = [] ↔ ∀ name ∈ names, r.seesField name = true := by
    simp [List.filter_eq_nil_iff]
  rw [checkWrite, ← hseen]
  by_cases hnone : names.filter (!r.seesField ·) = []
  · simp [hnone]
  · simp [hnone]

/-- The write check fails if a name may not be seen, and then it reports all such names. -/
theorem checkWrite_eq_error_iff {names : List String} {fault : Fault} :
    r.checkWrite names = .error fault ↔
      names.filter (!r.seesField ·) ≠ [] ∧
        fault = .fieldsNotWritable r.entityType (names.filter (!r.seesField ·)) := by
  rw [checkWrite]
  by_cases hnone : names.filter (!r.seesField ·) = []
  · simp [hnone]
  · rw [if_neg (by simpa using hnone)]
    simp [hnone, eq_comm]

end Request

end AccessPolicy
