import AccessPolicy.Proofs.MorePermissions
import AccessPolicy.Proofs.PushedSelection

/-!
# What is left of a record is united

There are two ways to cut a record down. A field policy keeps the fields that it permits. A request
tests each field against all policies that count, and keeps the system fields besides. The second
is the union of the first over the permissions, with the system fields as its floor: the parts that
the single permissions show are put together, and nothing is there twice or with another value,
since all of them are parts of one record.

The union is taken one permission after the other. Each step puts two parts of a record together,
which is a part again, so the permissions can be followed by induction with the part that is kept
so far. A permission more is a step more, and it is the same step wherever the permission stands
in the list.

## Main statements

* `FieldPolicy.mem_keys_project` — the fields that one policy keeps.
* `FieldPolicy.foldl_union_project` — the parts that some permissions show, put together.
* `Request.seesField_withPermissions` — a permission more shows the fields that it permits.
* `Request.project_eq_union` — what is left of a record is the union.
-/
namespace AccessPolicy

namespace FieldPolicy

variable {policy : Option FieldPolicy} {record : Record} {field : String}

/-- A policy keeps the fields of a record that it permits. -/
theorem mem_keys_project :
    field ∈ (project policy record).keys ↔
      field ∈ record.keys ∧ permits policy field = true := by
  simp only [Dict.mem_keys, project, Dict.get?_filter, Option.filter_eq_some_iff,
    exists_and_right]

/-- **The parts that some permissions show**, put together with a part that is kept already. -/
theorem foldl_union_project (permissions : List Permission) (keep : String → Bool)
    (record : Record) :
    (permissions.map fun p => project p.fields record).foldl Dict.union
        (record.filter fun field _ => keep field) =
      record.filter fun field _ =>
        keep field || permissions.any fun p => permits p.fields field := by
  induction permissions generalizing keep with
  | nil => simp only [List.map_nil, List.foldl_nil, List.any_nil, Bool.or_false]
  | cons p rest ih =>
    -- After the first step the part that is kept is the one under either of two tests.
    rw [List.map_cons, List.foldl_cons, project, Dict.filter_union_filter,
      ih fun field => keep field || permits p.fields field]
    simp only [List.any_cons, Bool.or_assoc]

end FieldPolicy

namespace Request

variable {r : Request} {record : Record} {field : String}

/-- A field is kept if it is a system field or if one of the permissions keeps it. -/
theorem get?_project_iff_exists (hsome : r.permissions ≠ []) {value : Json} :
    (r.project record).get? field = some value ↔
      record.get? field = some value ∧ (field ∈ systemFields ∨
        ∃ p ∈ r.permissions, field ∈ (FieldPolicy.project p.fields record).keys) := by
  rw [get?_project_eq_some_iff, seesField, List.any_eq_true]
  simp only [FieldPolicy.mem_keys_project]
  constructor
  · rintro ⟨-, hvalue, hkept⟩
    refine ⟨hvalue, hkept.imp_right ?_⟩
    rintro ⟨p, hp, hpermits⟩
    exact ⟨p, hp, Dict.mem_keys.2 ⟨value, hvalue⟩, hpermits⟩
  · rintro ⟨hvalue, hkept⟩
    refine ⟨hsome, hvalue, hkept.imp_right ?_⟩
    rintro ⟨p, hp, -, hpermits⟩
    exact ⟨p, hp, hpermits⟩

/-- What is left of a record is left of it again. -/
theorem project_project (r : Request) (record : Record) :
    r.project (r.project record) = r.project record := by
  apply Dict.ext_value
  intro field value
  rw [get?_project_eq_some_iff]
  constructor
  · rintro ⟨-, hvalue, -⟩
    exact hvalue
  · intro hvalue
    obtain ⟨hsome, -, hkept⟩ := get?_project_eq_some_iff.1 hvalue
    exact ⟨hsome, hvalue, hkept⟩

/-! ## A permission more -/

variable {other : List Permission} {p : Permission}

theorem permissions_withPermissions_ne_nil (hp : p ∈ other)
    (hgrants : p.grants r.action r.entityType = true) :
    (r.withPermissions other).permissions ≠ [] := by
  rw [← isAllowed_iff, isAllowed, Bool.or_eq_true]
  exact .inr (List.any_eq_true.2 ⟨p, hp, hgrants⟩)

/-- **A permission more** that counts shows the fields that it permits, and no others that were not
seen before. -/
theorem seesField_withPermissions (hgrants : p.grants r.action r.entityType = true)
    (hother : ∀ q, q ∈ other ↔ q = p ∨ q ∈ r.principal.permissions) (field : String) :
    (r.withPermissions other).seesField field =
      (r.seesField field || FieldPolicy.permits p.fields field) := by
  by_cases hsuper : r.principal.isSuperuser = true
  · simp [seesField, permissions, withPermissions, hsuper, unrestricted, FieldPolicy.permits]
  · rw [Bool.eq_iff_iff, Bool.or_eq_true]
    simp only [seesField, permissions, withPermissions, hsuper, Bool.false_eq_true, if_false,
      List.any_eq_true, List.mem_filter, hother]
    constructor
    · rintro ⟨q, ⟨rfl | hq, hcounts⟩, hpermits⟩
      · exact .inr hpermits
      · exact .inl ⟨q, ⟨hq, hcounts⟩, hpermits⟩
    · rintro (⟨q, ⟨hq, hcounts⟩, hpermits⟩ | hpermits)
      · exact ⟨q, ⟨.inr hq, hcounts⟩, hpermits⟩
      · exact ⟨p, ⟨.inl rfl, hgrants⟩, hpermits⟩

/-- **What is left of a record is the union** of what the permissions that count show of it, one by
one, over its system fields. So it has the values of the record, in the system fields and in each
field that some permission keeps. What is left of it again is all of it, what is left of a part of
the record is that part of it, and with a permission more that counts it is put together with what
this one shows. -/
theorem project_eq_union (r : Request) (hsome : r.permissions ≠ []) (record : Record) :
    r.project record =
      (r.permissions.map fun p => FieldPolicy.project p.fields record).foldl Dict.union
        (record.filter fun field _ => ["id", "createdAt", "updatedAt"].contains field) ∧
    (∀ field value, (r.project record).get? field = some value ↔
      record.get? field = some value ∧ (field ∈ ["id", "createdAt", "updatedAt"] ∨
        ∃ p ∈ r.permissions, field ∈ (FieldPolicy.project p.fields record).keys)) ∧
    r.project (r.project record) = r.project record ∧
    (∀ kept : String → Bool, r.project (record.filter fun field _ => kept field) =
      (r.project record).filter fun field _ => kept field) ∧
    ∀ (p : Permission) (other : List Permission), p.grants r.action r.entityType = true →
      (∀ q, q ∈ other ↔ q = p ∨ q ∈ r.principal.permissions) →
        (r.withPermissions other).project record =
          (r.project record).union (FieldPolicy.project p.fields record) := by
  refine ⟨?_, ?_, project_project r record, ?_, ?_⟩
  · rw [FieldPolicy.foldl_union_project, project_eq_filter hsome]
    rfl
  · intro field value
    exact get?_project_iff_exists hsome
  · intro kept
    exact project_filter r (fun field _ => kept field) record
  · intro p other hgrants hother
    have hp : p ∈ other := (hother p).2 (.inl rfl)
    rw [project_eq_filter (permissions_withPermissions_ne_nil hp hgrants),
      project_eq_filter hsome, FieldPolicy.project, Dict.filter_union_filter]
    simp only [seesField_withPermissions hgrants hother, Bool.or_assoc]

end Request

/-! ### Two permissions for employees -/

/-- A permission to read all fields of employees but the name. -/
def namelessPermission : Permission where
  entityType := "employees"
  actions := ["read"]
  fields := some { denied := some ["name"] }

/-- One permission shows the name only, since it denies the number that it allows; another one
shows everything but the name. With the first alone the identifier and the name are left of a
record, with both of them the whole of it. -/
theorem project_union_staffRecord :
    (staffRequest ["name", "ssn"] ["ssn"]).permissions ≠ [] ∧
      ((staffRequest ["name", "ssn"] ["ssn"]).project staffRecord).keys = ["id", "name"] ∧
      (FieldPolicy.project namelessPermission.fields staffRecord).keys = ["id", "ssn"] ∧
      ((staffRequest ["name", "ssn"] ["ssn"]).withPermissions
        (namelessPermission ::
          (staffRequest ["name", "ssn"] ["ssn"]).principal.permissions)).project staffRecord =
        staffRecord := by
  have hsome : (staffRequest ["name", "ssn"] ["ssn"]).permissions ≠ [] := by decide
  have hgrants : namelessPermission.grants "read" "employees" = true := by decide
  obtain ⟨-, -, -, -, hmore⟩ :=
    Request.project_eq_union (staffRequest ["name", "ssn"] ["ssn"]) hsome staffRecord
  refine ⟨hsome, by decide, by decide, ?_⟩
  rw [hmore namelessPermission _ hgrants fun q => List.mem_cons]
  rfl

end AccessPolicy
