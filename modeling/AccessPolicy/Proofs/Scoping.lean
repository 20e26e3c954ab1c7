import AccessPolicy.Proofs.Predicate.Agreement

/-!
# Records scoped to the principal

A permission may ask that a field of a record is equal to something the principal itself
carries, such as its department. If every permission that counts asks for that, a request sees
records of that department only, whatever else the permissions ask for and however many of them
there are; and a principal without a department sees no record at all.

The permissions of a request are united, so a condition binds the request only if every
permission has it; this is `Request.AllDemand`. Within one permission the conditions are a
conjunction, so those that stand beside it can only take records away.

## Main definitions

* `Request.AllDemand` — every permission that counts has a condition on a field.

## Main statements

* `Conditions.accept_some_iff` — conditions accept a record if each of them does.
* `Request.accepts_of_allDemand` — a condition of all permissions holds of every record seen.
* `Request.carries_of_allDemand_reference` — records seen carry the value of the principal.
-/
namespace AccessPolicy

variable {field : String} {path : List String} {record : Record}

/-! ## One permission -/

/-- **Conditions accept a record** if none of them is on a reserved name and each of them accepts
the value of its field. -/
theorem Conditions.accept_some_iff {cs : Conditions} {context : Json} :
    accept (some cs) context record = true ↔
      ∀ field c, cs.get? field = some c →
        isReserved field = false ∧ c.accepts context (record.get? field) = true := by
  rw [accept, Option.all_some, Dict.all_iff]
  simp only [Bool.and_eq_true, Bool.not_eq_true']

/-- A condition that asks for equality with what is at a path of the context accepts exactly the
values that are equal to it; no value if nothing is there. -/
theorem Condition.accepts_eq_reference_iff {context : Json} {value : Option Json} :
    (⟨.known .eq, .reference path⟩ : Condition).accepts context value = true ↔
      ∃ v expected, value = some v ∧ context.at? path = some expected ∧
        Comparison.eq.holds (some v) expected = true := by
  rw [accepts_eq_any, Operand.resolve, Option.any_eq_true]
  constructor
  · rintro ⟨expected, hexpected, hholds⟩
    cases value with
    | none => cases hholds
    | some v => exact ⟨v, expected, rfl, hexpected, hholds⟩
  · rintro ⟨v, expected, rfl, hexpected, hholds⟩
    exact ⟨expected, hexpected, hholds⟩

/-! ## All permissions of a request -/

namespace Request

variable {r : Request} {c : Condition}

/-- Every permission that counts has the condition `c` on a field, among any others. -/
def AllDemand (r : Request) (field : String) (c : Condition) : Prop :=
  ∀ p ∈ r.permissions, ∃ cs, p.conditions = some cs ∧ cs.get? field = some c

/-- **A condition of all permissions** holds of every record that is seen. -/
theorem accepts_of_allDemand (hsuper : r.principal.isSuperuser = false)
    (hall : r.AllDemand field c) (h : r.seesRecord record = true) :
    c.accepts r.context (record.get? field) = true := by
  rw [seesRecord, hsuper, Bool.false_or, List.any_eq_true] at h
  obtain ⟨p, hp, haccept⟩ := h
  obtain ⟨cs, hcs, hc⟩ := hall p hp
  rw [hcs] at haccept
  exact (Conditions.accept_some_iff.1 haccept field c hc).2

/-- **Scoping to the principal isolates.** Let every permission that counts ask that a field is
equal to what is at a path of the principal's data. Then each record that the request sees,
keeps of some list or selects by its predicate carries the field, with a value equal to the one
at the path; and if there is nothing at the path, no record is seen, kept or selected. -/
theorem carries_of_allDemand_reference (r : Request) (hsuper : r.principal.isSuperuser = false)
    (hall : r.AllDemand field ⟨.known .eq, .reference path⟩) :
    (∀ record, r.seesRecord record = true ∨ (∃ records, record ∈ r.filterRecords records) ∨
        r.predicate.selects record = true →
      ∃ v expected, record.get? field = some v ∧ r.principal.context.at? path = some expected ∧
        Comparison.eq.holds (some v) expected = true) ∧
    (r.principal.context.at? path = none →
      (∀ record, r.seesRecord record = false ∧ r.predicate.selects record = false) ∧
      ∀ records, r.filterRecords records = []) := by
  have hseen : ∀ record, r.seesRecord record = true →
      ∃ v expected, record.get? field = some v ∧ r.principal.context.at? path = some expected ∧
        Comparison.eq.holds (some v) expected = true := by
    intro record h
    exact Condition.accepts_eq_reference_iff.1 (accepts_of_allDemand hsuper hall h)
  constructor
  · rintro record (h | ⟨records, h⟩ | h)
    · exact hseen record h
    · exact hseen record (mem_filterRecords.1 h).2
    · exact hseen record (selects_predicate r record ▸ h)
  · intro hnone
    have hunseen : ∀ record, r.seesRecord record = false := by
      intro record
      rw [← Bool.not_eq_true]
      intro h
      obtain ⟨v, expected, -, hexpected, -⟩ := hseen record h
      rw [hnone] at hexpected
      cases hexpected
    refine ⟨fun record => ⟨hunseen record, ?_⟩, fun records => ?_⟩
    · rw [selects_predicate, hunseen]
    · rw [filterRecords_eq_filter, List.filter_eq_nil_iff]
      intro record _
      simp [hunseen record]

end Request

/-! ### Two permissions for one department -/

/-- The condition that the department of a record is the principal's own. -/
def ownDepartment : Condition := ⟨.known .eq, .reference ["user", "department"]⟩

/-- A permission for active employees of the own department. -/
def activeEmployees : Permission where
  entityType := "employees"
  actions := ["read"]
  conditions := some <| .ofList
    [("department", ownDepartment), ("status", ⟨.known .eq, .literal (.string "active")⟩)]

/-- A permission for grown-up employees of the own department. -/
def adultEmployees : Permission where
  entityType := "employees"
  actions := ["read", "update"]
  conditions := some <| .ofList
    [("age", ⟨.known .gte, .literal (.number (.int 18))⟩), ("department", ownDepartment)]

/-- A request to read employees, of a principal that may also read all vehicles. -/
def departmentRequest (department : Option String) : Request where
  principal :=
    { id := "u-1"
      department
      permissions :=
        [activeEmployees, { entityType := "vehicles", actions := ["read"] }, adultEmployees] }
  action := "read"
  entityType := "employees"

/-- An active employee of a department, without an age. -/
def employeeRecord (department : String) : Record :=
  .ofList [("department", .string department), ("status", .string "active")]

/-- A principal of the department sees the employee, who carries that department; one without a
department selects nobody. -/
theorem carries_departmentRequest :
    (∀ department, (departmentRequest department).principal.isSuperuser = false ∧
        (departmentRequest department).AllDemand "department" ownDepartment) ∧
      (departmentRequest (some "Ops")).seesRecord (employeeRecord "Ops") = true ∧
      (∃ v expected, (employeeRecord "Ops").get? "department" = some v ∧
        (departmentRequest (some "Ops")).principal.context.at? ["user", "department"] =
          some expected ∧
        Comparison.eq.holds (some v) expected = true) ∧
      ∀ record, (departmentRequest none).predicate.selects record = false := by
  have hsuper : ∀ department, (departmentRequest department).principal.isSuperuser = false := by
    intro department
    rfl
  have hall : ∀ department,
      (departmentRequest department).AllDemand "department" ownDepartment := by
    intro department p hp
    have hpermissions :
        (departmentRequest department).permissions = [activeEmployees, adultEmployees] := rfl
    rw [hpermissions] at hp
    simp only [List.mem_cons, List.not_mem_nil, or_false] at hp
    rcases hp with rfl | rfl
    · exact ⟨_, rfl, rfl⟩
    · exact ⟨_, rfl, rfl⟩
  have hsees : (departmentRequest (some "Ops")).seesRecord (employeeRecord "Ops") = true := by
    decide
  have hnone : (departmentRequest none).principal.context.at? ["user", "department"] = none := rfl
  obtain ⟨hcarries, -⟩ :=
    Request.carries_of_allDemand_reference (departmentRequest (some "Ops")) (hsuper _) (hall _)
  obtain ⟨-, hdenies⟩ :=
    Request.carries_of_allDemand_reference (departmentRequest none) (hsuper _) (hall _)
  exact ⟨fun department => ⟨hsuper department, hall department⟩, hsees,
    hcarries (employeeRecord "Ops") (.inl hsees),
    fun record => ((hdenies hnone).1 record).2⟩

end AccessPolicy
