import AccessPolicy.Proofs.Answers
import AccessPolicy.Proofs.FieldAccess

/-!
# Asking a store for the selected fields only

A store that is asked for the selected fields of a schema returns the part of each record that
lies under them, and the fields that may be seen are then taken from that part. Nothing that may
be seen is lost on this way and nothing is added, except that a store is not asked for system
fields on account of their being kept: those may be missing.

Taking the visible part of a record tests one field after the other, so it does not matter
whether a record is cut down before or after. What is left to show is that every visible field is
asked for. That holds although the two walks over the policies may disagree, since a field that
is listed without being visible is dropped in the second step.

## Main definitions

* `Request.requested` — the part of a record that a store returns.

## Main statements

* `Request.project_filter` — the visible part of a part is that part of the visible part.
* `Request.has_selection_of_project` — a store is asked for every visible field.
* `Request.project_requested` — no visible field is lost and none is added.
-/
namespace AccessPolicy

namespace Request

variable {r : Request} {schema : List String} {record : Record} {field : String}

/-- The part of a record that a store returns if it is asked for the selected fields of a
schema. -/
def requested (r : Request) (schema : List String) (record : Record) : Record :=
  record.filter fun field _ => (r.selection schema).has field

/-- **The visible part of a part** of a record is that part of the visible part. -/
theorem project_filter (r : Request) (keep : String → Json → Bool) (record : Record) :
    r.project (record.filter keep) = (r.project record).filter keep := by
  apply Dict.ext_value
  intro field value
  rw [get?_project_eq_some_iff, Dict.get?_filter, Dict.get?_filter, Option.filter_eq_some_iff,
    Option.filter_eq_some_iff, get?_project_eq_some_iff]
  tauto

/-- **A store is asked for every visible field** of a record whose fields are in the schema. -/
theorem has_selection_of_project {value : Json} (hschema : field ∈ schema)
    (hsystem : field ∉ systemFields) (h : (r.project record).get? field = some value) :
    (r.selection schema).has field = true := by
  obtain ⟨-, -, hkept⟩ := get?_project_eq_some_iff.1 h
  have hsees : r.seesField field = true := hkept.resolve_left hsystem
  have hlisted : field ∈ r.accessibleFields schema :=
    (mem_accessibleFields_iff hschema).2 (.inl hsees)
  exact has_selection.2 (.inl ⟨hschema, hlisted⟩)

/-- **Pushing the selection into a store loses no visible field and adds none.** Let all fields
of a record be in the schema. Of the part that a store returns, the visible part has the same
value as that of the whole record, or none as well, in every field that is no system field; and
whatever value it has in any field, the visible part of the whole record has it too. -/
theorem project_requested (r : Request) (schema : List String) (record : Record)
    (hrecord : ∀ field ∈ record.keys, field ∈ schema) :
    (∀ field, field ∉ ["id", "createdAt", "updatedAt"] →
      (r.project (r.requested schema record)).get? field = (r.project record).get? field) ∧
    ∀ field value, (r.project (r.requested schema record)).get? field = some value →
      (r.project record).get? field = some value := by
  rw [requested, project_filter]
  constructor
  · intro field hsystem
    rw [Dict.get?_filter]
    cases hvalue : (r.project record).get? field with
    | none => rfl
    | some value =>
      have hentry : (field, value) ∈ record.entries :=
        Dict.get?_eq_some_iff.1 (get?_project_eq_some_iff.1 hvalue).2.1
      have hschema : field ∈ schema := hrecord field (List.mem_map_of_mem hentry)
      rw [Option.filter_some, if_pos (has_selection_of_project hschema hsystem hvalue)]
  · intro field value h
    rw [Dict.get?_filter, Option.filter_eq_some_iff] at h
    exact h.1

end Request

/-! ### A field that is asked for and not shown -/

/-- A record of an employee. -/
def staffRecord : Record :=
  .ofList [("id", .number (.int 7)), ("name", .string "Ada"), ("ssn", .string "078-05-1120")]

/-- The policy allows and denies the number of the employee: a store returns it, beside the name
and without the identifier, and only the name is shown. -/
theorem project_requested_staffRecord :
    (∀ field ∈ staffRecord.keys, field ∈ ["id", "name", "ssn"]) ∧
      ((staffRequest ["name", "ssn"] ["ssn"]).requested ["id", "name", "ssn"] staffRecord).keys =
        ["name", "ssn"] ∧
      ((staffRequest ["name", "ssn"] ["ssn"]).project staffRecord).keys = ["id", "name"] ∧
      ((staffRequest ["name", "ssn"] ["ssn"]).project
        ((staffRequest ["name", "ssn"] ["ssn"]).requested ["id", "name", "ssn"]
          staffRecord)).get? "name" = some (.string "Ada") ∧
      ((staffRequest ["name", "ssn"] ["ssn"]).project
        ((staffRequest ["name", "ssn"] ["ssn"]).requested ["id", "name", "ssn"]
          staffRecord)).get? "ssn" = none := by
  have hrecord : ∀ field ∈ staffRecord.keys, field ∈ ["id", "name", "ssn"] := by decide
  obtain ⟨hsame, -⟩ := Request.project_requested (staffRequest ["name", "ssn"] ["ssn"])
    ["id", "name", "ssn"] staffRecord hrecord
  refine ⟨hrecord, by decide, by decide, ?_, ?_⟩
  · rw [hsame "name" (by decide)]
    rfl
  · rw [hsame "ssn" (by decide)]
    rfl

end AccessPolicy
