import AccessPolicy.Proofs.FieldAccess
import Mathlib.Data.List.Induction

/-!
# The order in which fields are listed

A request lists the fields that its permissions name. It goes through the permissions one after the
other, and through the names of each in their order, and takes a name over unless it has been taken
over before. So each name is listed once, and the names stand in the order of their first
occurrences. Both are an invariant of the names seen so far: one more name keeps it, whether it is
new or not.

A store is asked for those of the listed fields that the schema has. This is a set, so it depends
neither on the order in which the permissions name fields nor on that of the schema.

## Main definitions

* `ListsOnce` — a list has the names of another one, each once and in order of first occurrence.
* `Request.namedFields` — what the permissions name, one after the other.

## Main statements

* `ListsOnce.step`, `listsOnce_eraseDups` — one more name, and all names.
* `ListsOnce.eq` — there is only one such list.
* `Request.selection_congr` — a selection depends on what the schema has.
* `Request.accessibleFields_selection` — what is listed, and what a store is asked for.
-/
namespace AccessPolicy

/-! ## Names in the order of first occurrence -/

/-- `once` has the names in `names`, each of them once and in the order in which they occur there
first. -/
structure ListsOnce (names once : List String) : Prop where
  /-- The names are the same. -/
  mem_iff : ∀ name, name ∈ once ↔ name ∈ names
  /-- A name stands before another one if it occurs before it. In particular no name is repeated. -/
  ordered : once.Pairwise fun a b => names.idxOf a < names.idxOf b

variable {names once once' : List String}

namespace ListsOnce

theorem nil : ListsOnce [] [] := ⟨fun _ => Iff.rfl, .nil⟩

theorem nodup (h : ListsOnce names once) : once.Nodup := by
  refine h.ordered.imp ?_
  rintro a b hlt rfl
  exact Nat.lt_irrefl _ hlt

/-- **One more name** is put at the end if it is new, and nothing happens if it is not. -/
theorem step (h : ListsOnce names once) (name : String) :
    ListsOnce (names ++ [name]) (if name ∈ names then once else once ++ [name]) := by
  -- Where a name occurs first does not change, since the new one stands behind all of them.
  have hfirst : ∀ a ∈ once, (names ++ [name]).idxOf a = names.idxOf a := by
    intro a ha
    exact List.idxOf_append_of_mem ((h.mem_iff a).1 ha)
  have hordered : once.Pairwise fun a b =>
      (names ++ [name]).idxOf a < (names ++ [name]).idxOf b := by
    refine h.ordered.imp_of_mem ?_
    intro a b ha hb hlt
    rwa [hfirst a ha, hfirst b hb]
  by_cases hname : name ∈ names
  · rw [if_pos hname]
    refine ⟨fun a => ?_, hordered⟩
    rw [h.mem_iff, List.mem_append, List.mem_singleton]
    constructor
    · exact .inl
    · rintro (ha | rfl)
      · exact ha
      · exact hname
  · rw [if_neg hname]
    refine ⟨fun a => ?_, List.pairwise_append.2 ⟨hordered, List.pairwise_singleton _ _, ?_⟩⟩
    · rw [List.mem_append, List.mem_append, h.mem_iff]
    · intro a ha b hb
      rw [List.mem_singleton.1 hb, hfirst a ha, List.idxOf_append_of_notMem hname]
      have hlt : names.idxOf a < names.length := List.idxOf_lt_length_iff.2 ((h.mem_iff a).1 ha)
      omega

/-- **There is only one such list.** -/
theorem eq (h : ListsOnce names once) (h' : ListsOnce names once') : once = once' := by
  have hperm : once.Perm once' := by
    refine (List.perm_ext_iff_of_nodup h.nodup h'.nodup).2 ?_
    intro name
    rw [h.mem_iff, h'.mem_iff]
  refine hperm.eq_of_pairwise ?_ h.ordered h'.ordered
  intro a b _ _ hab hba
  exact absurd hba (Nat.lt_asymm hab)

end ListsOnce

/-- **All names**, when repetitions are dropped, are in the order of their first occurrences. -/
theorem listsOnce_eraseDups (names : List String) : ListsOnce names names.eraseDups := by
  induction names using List.reverseRecOn with
  | nil => exact .nil
  | append_singleton names name ih =>
    have hstep : (names ++ [name]).eraseDups =
        if name ∈ names then names.eraseDups else names.eraseDups ++ [name] := by
      rw [List.eraseDups_append, List.removeAll]
      by_cases hname : name ∈ names
      · simp [hname]
      · simp [hname, List.eraseDups_cons]
    rw [hstep]
    exact ih.step name

/-! ## Fields -/

variable {schema other : List String} {field : String}

/-- What one policy lists depends on the fields that the schema has. -/
theorem FieldPolicy.mem_accessible_congr {policy : Option FieldPolicy}
    (h : ∀ name, name ∈ other ↔ name ∈ schema) :
    field ∈ accessible policy other ↔ field ∈ accessible policy schema := by
  rcases policy with _ | ⟨_ | allowed, _ | denied⟩
  · exact h field
  · exact h field
  · rw [accessible, accessible, List.mem_filter, List.mem_filter, h field]
  · exact Iff.rfl
  · exact Iff.rfl

namespace Request

variable {r : Request}

/-- What the permissions of a request name, one after the other. -/
def namedFields (r : Request) (schema : List String) : List String :=
  r.permissions.flatMap fun p => FieldPolicy.accessible p.fields schema

/-- A request lists what its permissions name, each field once and in the order of first
occurrence. -/
theorem listsOnce_accessibleFields (r : Request) (schema : List String) :
    ListsOnce (r.namedFields schema) (r.accessibleFields schema) :=
  listsOnce_eraseDups _

/-- **A selection depends on the fields that the schema has**, not on their order and not on how
often they occur. -/
theorem selection_congr (h : ∀ name, name ∈ other ↔ name ∈ schema) :
    r.selection other = r.selection schema := by
  have hlisted : ∀ field, field ∈ r.accessibleFields other ↔ field ∈ r.accessibleFields schema := by
    intro field
    simp only [mem_accessibleFields, FieldPolicy.mem_accessible_congr h]
  apply NameSet.ext_has
  intro field
  rw [has_selection, has_selection]
  simp only [h, hlisted]

theorem exists_has_selection (r : Request) (schema : List String) :
    ∃ field, (r.selection schema).has field = true := by
  by_cases hnone : ∀ name ∈ schema, name ∉ r.accessibleFields schema
  · exact ⟨"id", has_selection.2 (.inr ⟨rfl, hnone⟩)⟩
  · push Not at hnone
    obtain ⟨name, hschema, hlisted⟩ := hnone
    exact ⟨name, has_selection.2 (.inl ⟨hschema, hlisted⟩)⟩

/-- **What is listed, and what a store is asked for.** The list has the fields that some permission
lists, each once and in the order in which they occur first if the permissions are gone through one
after the other; it is the only such list. A store is asked for those of them that the schema has,
and for the identifier if there are none. So it is asked for something in any case, and for the same
if the schema has the same fields, in whatever order and however often. -/
theorem accessibleFields_selection (r : Request) (schema : List String) :
    (r.accessibleFields schema).Nodup ∧
    (∀ field, field ∈ r.accessibleFields schema ↔
      ∃ p ∈ r.permissions, field ∈ FieldPolicy.accessible p.fields schema) ∧
    (∀ fields, ListsOnce (r.namedFields schema) fields ↔ fields = r.accessibleFields schema) ∧
    (∀ field, (r.selection schema).has field = true ↔
      (field ∈ r.accessibleFields schema ∧ field ∈ schema) ∨
        (field = "id" ∧ ∀ name ∈ r.accessibleFields schema, name ∉ schema)) ∧
    (∃ field, (r.selection schema).has field = true) ∧
    ∀ other : List String, (∀ name, name ∈ other ↔ name ∈ schema) →
      r.selection other = r.selection schema := by
  have honce := listsOnce_accessibleFields r schema
  refine ⟨honce.nodup, fun field => mem_accessibleFields, ?_, ?_, exists_has_selection r schema, ?_⟩
  · intro fields
    constructor
    · intro h
      exact h.eq honce
    · rintro rfl
      exact honce
  · intro field
    have hnone : (∀ name ∈ schema, name ∉ r.accessibleFields schema) ↔
        ∀ name ∈ r.accessibleFields schema, name ∉ schema :=
      ⟨fun h name hlisted hschema => h name hschema hlisted,
        fun h name hschema hlisted => h name hlisted hschema⟩
    rw [has_selection, hnone, and_comm (a := field ∈ schema)]
  · intro other h
    exact selection_congr h

end Request

/-! ### A directory -/

/-- A request with three permissions for employees: two fields beside one that no schema needs, all
fields but the number, and all fields. -/
def directoryRequest : Request where
  principal :=
    { id := "u-1"
      permissions :=
        [ { entityType := "employees"
            actions := ["read"]
            fields := some { allowed := some ["phone", "desk", "phone"] } },
          { entityType := "employees"
            actions := ["read"]
            fields := some { denied := some ["ssn"] } },
          { entityType := "employees"
            actions := ["read"] } ] }
  action := "read"
  entityType := "employees"

/-- The schema in another order and with repetitions changes the order of the list, which begins
with what the first permission names, and not the selection. -/
theorem selection_directoryRequest :
    (∀ name, name ∈ ["ssn", "name", "id", "phone", "name"] ↔
        name ∈ ["id", "name", "phone", "ssn"]) ∧
      directoryRequest.accessibleFields ["id", "name", "phone", "ssn"] =
        ["phone", "desk", "id", "name", "ssn"] ∧
      directoryRequest.accessibleFields ["ssn", "name", "id", "phone", "name"] =
        ["phone", "desk", "name", "id", "ssn"] ∧
      directoryRequest.selection ["ssn", "name", "id", "phone", "name"] =
        directoryRequest.selection ["id", "name", "phone", "ssn"] ∧
      (directoryRequest.selection ["id", "name", "phone", "ssn"]).toList =
        ["id", "name", "phone", "ssn"] := by
  have hsame : ∀ name, name ∈ ["ssn", "name", "id", "phone", "name"] ↔
      name ∈ ["id", "name", "phone", "ssn"] := by
    intro name
    simp only [List.mem_cons, List.not_mem_nil, or_false]
    tauto
  obtain ⟨-, -, -, -, -, hselection⟩ :=
    Request.accessibleFields_selection directoryRequest ["id", "name", "phone", "ssn"]
  exact ⟨hsame, by decide, by decide, hselection _ hsame, by decide⟩

end AccessPolicy
