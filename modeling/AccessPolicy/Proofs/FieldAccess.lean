import AccessPolicy.Proofs.Dict
import AccessPolicy.Request

/-!
# Which fields are listed and which may be seen

Two walks over the policies of a request decide about fields. One tests a single field: a
denied field is not shown, whatever the list of allowed fields says. The other lists the fields
of a schema for a store, and takes a list of allowed fields as it is written. They agree on
every policy with at most one list. A policy may carry both, and then a field that stands in
both is listed although it is not shown.

So the two walks agree exactly on the fields that do not leak, where a field leaks if some
permission allows and denies it at once and no permission shows it.

## Main definitions

* `FieldPolicy.contradicts` — a policy allows and denies a field at once.
* `Request.leaks` — a field is listed although no permission shows it.

## Main statements

* `FieldPolicy.mem_accessible_iff` — what one policy lists.
* `Request.mem_accessibleFields_iff` — what a request lists.
* `Request.listed_iff_seen_iff` — the two walks agree exactly where nothing leaks.
-/
namespace AccessPolicy

variable {policy : Option FieldPolicy} {schema : List String} {field : String}

/-! ## One policy -/

namespace FieldPolicy

/-- Whether a policy names a field both as allowed and as denied. -/
def contradicts (policy : Option FieldPolicy) (field : String) : Bool :=
  policy.any fun p => p.allowed.any (·.contains field) && p.denied.any (·.contains field)

/-- **What one policy lists** of a schema: the fields that it permits, and those that it names
in both of its lists. -/
theorem mem_accessible_iff (hschema : field ∈ schema) :
    field ∈ accessible policy schema ↔
      permits policy field = true ∨ contradicts policy field = true := by
  rcases policy with _ | ⟨_ | allowed, _ | denied⟩
  · simp [accessible, permits, contradicts, hschema]
  · simp [accessible, permits, contradicts, hschema]
  · simp [accessible, permits, contradicts, hschema]
  · simp [accessible, permits, contradicts]
  · -- Both lists: the allowed one is given as it is, so the denied one decides nothing.
    by_cases hdenied : field ∈ denied
    · simp [accessible, permits, contradicts, hdenied]
    · simp [accessible, permits, contradicts, hdenied]

end FieldPolicy

/-! ## All policies of a request -/

namespace Request

variable {r : Request}

/-- A request lists what one of its permissions lists. -/
theorem mem_accessibleFields :
    field ∈ r.accessibleFields schema ↔
      ∃ p ∈ r.permissions, field ∈ FieldPolicy.accessible p.fields schema := by
  rw [accessibleFields, List.mem_eraseDups, List.mem_flatMap]

/-- Whether a field is listed although no permission shows it: one of the permissions allows
and denies it at once. -/
def leaks (r : Request) (field : String) : Bool :=
  !r.seesField field && r.permissions.any fun p => FieldPolicy.contradicts p.fields field

/-- **What a request lists** of a schema: the fields that it may see, and those that leak. -/
theorem mem_accessibleFields_iff (hschema : field ∈ schema) :
    field ∈ r.accessibleFields schema ↔ r.seesField field = true ∨ r.leaks field = true := by
  have hlisted : field ∈ r.accessibleFields schema ↔
      r.seesField field = true ∨
        r.permissions.any (fun p => FieldPolicy.contradicts p.fields field) = true := by
    rw [mem_accessibleFields, seesField, List.any_eq_true, List.any_eq_true]
    constructor
    · rintro ⟨p, hp, hlists⟩
      rcases (FieldPolicy.mem_accessible_iff hschema).1 hlists with hpermits | hcontradicts
      · exact .inl ⟨p, hp, hpermits⟩
      · exact .inr ⟨p, hp, hcontradicts⟩
    · rintro (⟨p, hp, hpermits⟩ | ⟨p, hp, hcontradicts⟩)
      · exact ⟨p, hp, (FieldPolicy.mem_accessible_iff hschema).2 (.inl hpermits)⟩
      · exact ⟨p, hp, (FieldPolicy.mem_accessible_iff hschema).2 (.inr hcontradicts)⟩
  rw [hlisted, leaks]
  cases r.seesField field with
  | true => simp
  | false => simp

/-- A store is asked for the listed fields of the schema, and for the identifier if there is
none of them. -/
theorem has_selection :
    (r.selection schema).has field = true ↔
      (field ∈ schema ∧ field ∈ r.accessibleFields schema) ∨
        (field = "id" ∧ ∀ name ∈ schema, name ∉ r.accessibleFields schema) := by
  have hnames : ∀ name, name ∈ (r.accessibleFields schema).filter schema.contains ↔
      name ∈ schema ∧ name ∈ r.accessibleFields schema := by
    intro name
    rw [List.mem_filter, List.contains_iff_mem, and_comm]
  rw [selection]
  by_cases hempty : ((r.accessibleFields schema).filter schema.contains).isEmpty = true
  · have hnone : ∀ name ∈ schema, name ∉ r.accessibleFields schema := by
      intro name hschema hlisted
      have hmem := (hnames name).2 ⟨hschema, hlisted⟩
      rw [List.isEmpty_iff.1 hempty] at hmem
      cases hmem
    rw [if_pos hempty, NameSet.has_ofList, List.mem_singleton]
    constructor
    · intro hid
      exact .inr ⟨hid, hnone⟩
    · rintro (⟨hschema, hlisted⟩ | ⟨hid, -⟩)
      · exact absurd hlisted (hnone field hschema)
      · exact hid
  · rw [if_neg hempty, NameSet.has_ofList, hnames]
    constructor
    · exact .inl
    · rintro (hlisted | ⟨-, hnone⟩)
      · exact hlisted
      · refine absurd (List.isEmpty_iff.2 (List.eq_nil_iff_forall_not_mem.2 ?_)) hempty
        intro name hmem
        obtain ⟨hschema, hlisted⟩ := (hnames name).1 hmem
        exact hnone name hschema hlisted

/-- No permission that denies a field shows it. -/
theorem seesField_eq_false (h : ∀ p ∈ r.permissions, FieldPolicy.permits p.fields field = false) :
    r.seesField field = false := by
  rw [seesField, List.any_eq_false]
  intro p hp
  simp [h p hp]

/-- **The two walks agree exactly where nothing leaks.** A field of a schema is listed if and
only if it may be seen, and a store is asked for it if and only if it may be seen or is the
identifier that is asked for when nothing is listed, each of them exactly for the fields that do
not leak. In particular a store is asked for a field that every permission denies, apart from
that identifier, exactly if the field leaks. -/
theorem listed_iff_seen_iff (r : Request) (schema : List String) (field : String)
    (hschema : field ∈ schema) :
    ((field ∈ r.accessibleFields schema ↔ r.seesField field = true) ↔ r.leaks field = false) ∧
      (((r.selection schema).has field = true ↔
          r.seesField field = true ∨
            (field = "id" ∧ ∀ name ∈ schema, name ∉ r.accessibleFields schema)) ↔
        r.leaks field = false) ∧
      ((∀ p ∈ r.permissions, FieldPolicy.permits p.fields field = false) →
        ((r.selection schema).has field = true ↔
          r.leaks field = true ∨
            (field = "id" ∧ ∀ name ∈ schema, name ∉ r.accessibleFields schema))) := by
  have hlisted := mem_accessibleFields_iff (r := r) hschema
  have hasked : (r.selection schema).has field = true ↔
      (r.seesField field = true ∨ r.leaks field = true) ∨
        (field = "id" ∧ ∀ name ∈ schema, name ∉ r.accessibleFields schema) := by
    rw [has_selection, hlisted]
    simp [hschema]
  have hunseen : r.leaks field = true → r.seesField field = false := by
    intro hleaks
    simp only [leaks, Bool.and_eq_true, Bool.not_eq_true'] at hleaks
    exact hleaks.1
  -- A field that leaks is listed, so it is not asked for as the identifier of last resort.
  have hfirst : r.leaks field = true →
      ¬ (field = "id" ∧ ∀ name ∈ schema, name ∉ r.accessibleFields schema) := by
    rintro hleaks ⟨-, hnone⟩
    exact hnone field hschema (hlisted.2 (.inr hleaks))
  refine ⟨?_, ?_, ?_⟩
  · rw [hlisted]
    cases hleaks : r.leaks field with
    | true => simp [hunseen hleaks]
    | false => simp
  · rw [hasked]
    cases hleaks : r.leaks field with
    | true => simp [hunseen hleaks, hfirst hleaks]
    | false => simp
  · intro hdenied
    rw [hasked, seesField_eq_false hdenied]
    simp

end Request

/-! ## A policy with both lists -/

/-- A request whose only permission carries both lists. -/
def staffRequest (allowed denied : List String) : Request where
  principal :=
    { id := "u-1"
      permissions :=
        [ { entityType := "employees"
            actions := ["read"]
            fields := some { allowed := some allowed, denied := some denied } } ] }
  action := "read"
  entityType := "employees"

/-- The lists have no field in common, so the denied field is not asked for. -/
theorem listed_iff_seen_staffRequest :
    "ssn" ∈ ["id", "name", "ssn"] ∧
      (∀ p ∈ (staffRequest ["name"] ["ssn"]).permissions,
        FieldPolicy.permits p.fields "ssn" = false) ∧
      "ssn" ∉ (staffRequest ["name"] ["ssn"]).accessibleFields ["id", "name", "ssn"] ∧
      ((staffRequest ["name"] ["ssn"]).selection ["id", "name", "ssn"]).has "ssn" = false := by
  have hschema : "ssn" ∈ ["id", "name", "ssn"] := by decide
  have hdenied : ∀ p ∈ (staffRequest ["name"] ["ssn"]).permissions,
      FieldPolicy.permits p.fields "ssn" = false := by decide
  have hleaks : (staffRequest ["name"] ["ssn"]).leaks "ssn" = false := by decide
  have hsees : (staffRequest ["name"] ["ssn"]).seesField "ssn" = false := by decide
  obtain ⟨hagree, -, hasked⟩ :=
    Request.listed_iff_seen_iff (staffRequest ["name"] ["ssn"]) ["id", "name", "ssn"] "ssn" hschema
  refine ⟨hschema, hdenied, ?_, ?_⟩
  · rw [hagree.2 hleaks, hsees]
    decide
  · rw [Bool.eq_false_iff, ne_eq, hasked hdenied, hleaks]
    decide

/-- **A field in both lists leaks**: no permission shows it, and a store is asked for it. -/
theorem leaks_staffRequest :
    "ssn" ∈ ["id", "name", "ssn"] ∧
      (staffRequest ["name", "ssn"] ["ssn"]).seesField "ssn" = false ∧
      "ssn" ∈ (staffRequest ["name", "ssn"] ["ssn"]).accessibleFields ["id", "name", "ssn"] ∧
      ((staffRequest ["name", "ssn"] ["ssn"]).selection ["id", "name", "ssn"]).has "ssn" =
        true := by
  decide

end AccessPolicy
