import AccessPolicy.Proofs.Answers

/-!
# The write check and the visible part of a record

Before the fields of a record are written, their names are checked: those that cannot be seen are
rejected. When a record is shown, the fields that cannot be seen are dropped, but for the system
fields, and without any permission these are dropped as well. So the two differ on system fields
and nowhere else, and they differ in one direction: a field that is dropped is rejected, so nothing
is written that is not shown afterwards.

## Main definitions

* `Request.rejected` — the names that the write check reports.
* `Request.Rejects` — the names that cannot be seen, as they are given.

## Main statements

* `Request.rejects_iff` — the check reports the names that cannot be seen.
* `Request.mem_keys_project_iff` — a field is dropped only if it is rejected.
* `Request.checkWrite_partitions` — the check, and what it says of a record.
-/
namespace AccessPolicy

namespace Request

/-- The names that the write check reports. -/
def rejected (r : Request) (names : List String) : List String :=
  match r.checkWrite names with
  | .error (.fieldsNotWritable _ fields) => fields
  | _ => []

/-- `reported` are those of some names that cannot be seen, as they are given. -/
structure Rejects (r : Request) (names reported : List String) : Prop where
  /-- They are names that are given, in their order. -/
  sublist : reported.Sublist names
  /-- A name that cannot be seen is there as often as it is given, and no other one is there. -/
  count_eq : ∀ name, reported.count name = if r.seesField name = true then 0 else names.count name

variable {r : Request} {names reported : List String} {record : Record} {field : String}

/-! ## The names that are reported -/

theorem rejected_eq_filter (r : Request) (names : List String) :
    r.rejected names = names.filter (!r.seesField ·) := by
  rw [rejected, checkWrite]
  by_cases hnone : names.filter (!r.seesField ·) = []
  · simp [hnone]
  · simp [hnone]

theorem mem_rejected : field ∈ r.rejected names ↔ field ∈ names ∧ r.seesField field = false := by
  rw [rejected_eq_filter, List.mem_filter, Bool.not_eq_true']

theorem rejects_rejected (r : Request) (names : List String) :
    r.Rejects names (r.rejected names) := by
  rw [rejected_eq_filter]
  refine ⟨List.filter_sublist, fun name => ?_⟩
  cases hsees : r.seesField name with
  | true => simp [List.count_eq_zero, hsees]
  | false => simp [List.count_filter, hsees]

/-- **The check reports the names that cannot be seen**: there is only one list of them in which
they stand as they are given. -/
theorem rejects_iff : r.Rejects names reported ↔ reported = r.rejected names := by
  constructor
  · intro h
    have hrejected := rejects_rejected r names
    have hperm : reported.Perm (r.rejected names) := by
      rw [List.perm_iff_count]
      intro name
      rw [h.count_eq, hrejected.count_eq]
    have hunseen : reported.filter (!r.seesField ·) = reported := by
      rw [List.filter_eq_self]
      intro name hname
      rw [Bool.not_eq_true']
      exact (mem_rejected.1 (hperm.mem_iff.1 hname)).2
    have hsublist : reported.Sublist (r.rejected names) := by
      rw [rejected_eq_filter, ← hunseen]
      exact h.sublist.filter _
    exact hsublist.eq_of_length hperm.length_eq
  · rintro rfl
    exact rejects_rejected r names

/-- The check fails if a name cannot be seen, and its fault names the type and all such names. -/
theorem checkWrite_eq_error_iff_rejected {fault : Fault} :
    r.checkWrite names = .error fault ↔
      (∃ name ∈ names, r.seesField name = false) ∧
        fault = .fieldsNotWritable r.entityType (r.rejected names) := by
  have hsome : names.filter (!r.seesField ·) ≠ [] ↔ ∃ name ∈ names, r.seesField name = false := by
    simp [List.filter_eq_nil_iff]
  rw [checkWrite_eq_error_iff, rejected_eq_filter, hsome]

/-! ## Records whose fields are to be written -/

/-- **A field is dropped only if it is rejected**, and a field that is rejected is dropped, but for
system fields. -/
theorem mem_keys_project_iff (hnames : ∀ field ∈ record.keys, field ∈ names) :
    field ∈ (r.project record).keys ↔ field ∈ record.keys ∧
      (field ∉ r.rejected names ∨ r.permissions ≠ [] ∧ field ∈ systemFields) := by
  have hkept : field ∈ (r.project record).keys ↔ r.permissions ≠ [] ∧ field ∈ record.keys ∧
      (field ∈ systemFields ∨ r.seesField field = true) := by
    simp only [Dict.mem_keys, get?_project_eq_some_iff, exists_and_left, exists_and_right]
  rw [hkept, mem_rejected, not_and, Bool.not_eq_false]
  constructor
  · rintro ⟨hpermissions, hkey, hsystem | hsees⟩
    · exact ⟨hkey, .inr ⟨hpermissions, hsystem⟩⟩
    · exact ⟨hkey, .inl fun _ => hsees⟩
  · rintro ⟨hkey, hsees | ⟨hpermissions, hsystem⟩⟩
    · have hseen := hsees (hnames field hkey)
      exact ⟨permissions_ne_nil hseen, hkey, .inr hseen⟩
    · exact ⟨hpermissions, hkey, .inl hsystem⟩

/-- **The write check rejects what is not shown.** It succeeds if all names may be seen, and
otherwise it reports those that may not, in the order in which they are given and as often. If the
names are those of the fields of a record, with or without others, then each field that is dropped
when the record is shown is rejected, a field that is rejected and shown is a system field, and if
the check succeeds, then the whole record is shown. -/
theorem checkWrite_partitions (r : Request) (names : List String) :
    (r.checkWrite names = .ok () ↔ ∀ name ∈ names, r.seesField name = true) ∧
    (∀ fault, r.checkWrite names = .error fault ↔
      (∃ name ∈ names, r.seesField name = false) ∧
        fault = .fieldsNotWritable r.entityType (r.rejected names)) ∧
    (∀ reported, r.Rejects names reported ↔ reported = r.rejected names) ∧
    ∀ record : Record, (∀ field ∈ record.keys, field ∈ names) →
      (∀ field ∈ record.keys, field ∉ (r.project record).keys → field ∈ r.rejected names) ∧
      (∀ field ∈ r.rejected names, field ∈ (r.project record).keys →
        field ∈ ["id", "createdAt", "updatedAt"]) ∧
      (r.checkWrite names = .ok () → r.project record = record) := by
  refine ⟨checkWrite_eq_ok_iff, fun fault => checkWrite_eq_error_iff_rejected,
    fun reported => rejects_iff, ?_⟩
  intro record hnames
  refine ⟨?_, ?_, ?_⟩
  · intro field hkey hdropped
    rw [mem_keys_project_iff hnames, not_and, not_or, not_not] at hdropped
    exact (hdropped hkey).1
  · intro field hrejected hkept
    obtain ⟨-, haccepted | ⟨-, hsystem⟩⟩ := (mem_keys_project_iff hnames).1 hkept
    · exact absurd hrejected haccepted
    · exact hsystem
  · intro hok
    have hseen := checkWrite_eq_ok_iff.1 hok
    exact project_eq_self fun field hkey => hseen field (hnames field hkey)

end Request

/-! ### A raise -/

/-- A request to update employees, with a permission for nothing but their names. -/
def raiseRequest : Request where
  principal :=
    { id := "u-1"
      permissions :=
        [ { entityType := "employees"
            actions := ["update"]
            fields := some { allowed := some ["name"] } } ] }
  action := "update"
  entityType := "employees"

/-- An employee with a salary. -/
def paidEmployee : Record :=
  .ofList [("id", .number (.int 7)), ("name", .string "Ada"), ("salary", .number (.int 90))]

/-- The salary is dropped from the record, so it is rejected, each time that it is given. The
identifier is rejected as well, but it is shown, as a system field. -/
theorem checkWrite_paidEmployee :
    (∀ field ∈ paidEmployee.keys, field ∈ ["salary", "name", "id", "salary"]) ∧
      (raiseRequest.project paidEmployee).keys = ["id", "name"] ∧
      "salary" ∈ raiseRequest.rejected ["salary", "name", "id", "salary"] ∧
      raiseRequest.checkWrite ["salary", "name", "id", "salary"] =
        .error (.fieldsNotWritable "employees" ["salary", "id", "salary"]) := by
  have hnames : ∀ field ∈ paidEmployee.keys, field ∈ ["salary", "name", "id", "salary"] := by decide
  obtain ⟨-, hfails, -, hrecord⟩ :=
    Request.checkWrite_partitions raiseRequest ["salary", "name", "id", "salary"]
  obtain ⟨hdropped, -, -⟩ := hrecord paidEmployee hnames
  have hrejected : raiseRequest.rejected ["salary", "name", "id", "salary"] =
      ["salary", "id", "salary"] := by decide
  refine ⟨hnames, by decide, hdropped "salary" (by decide) (by decide), (hfails _).2 ⟨?_, ?_⟩⟩
  · exact ⟨"salary", by decide, by decide⟩
  · rw [hrejected]
    rfl

end AccessPolicy
