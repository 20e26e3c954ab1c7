import AccessPolicy.Proofs.DeadPermission
import AccessPolicy.Proofs.ReferencedData

/-!
# Attributes that a principal lacks

What a principal does not have is left out of its context, so that a reference to it leads nowhere
and a condition that asks for it denies. But the context is put together of two sources: the data
that every principal has a place for, and further attributes under any names. A principal without
a department may have a further attribute of that name, and then the reference leads there.

So the rule holds exactly for the principals without a further attribute of the name in question,
and for no others: with such an attribute some operand has a value and some condition lets records
through.

## Main definitions

* `Dict.IsOverlay` — the entries of one dictionary are put over those of another one.
* `Principal.ownData` — the data of a principal without its further attributes.
* `Principal.Lacks` — the data that a principal may be without.

## Main statements

* `Principal.isOverlay_userData` — own data is put over further attributes.
* `Principal.at?_context_of_lacks` — a reference to what is lacking leads to a further attribute.
* `Principal.unresolved_iff_of_lacks` — it leads nowhere exactly if there is none of the name.
-/
namespace AccessPolicy

/-! ## One dictionary over another one -/

/-- In `d` the entries of `own` are put over those of `base`. -/
def Dict.IsOverlay {α : Type} (own base d : Dict α) : Prop :=
  ∀ k, d.get? k = (own.get? k).or (base.get? k)

namespace Dict.IsOverlay

variable {own base d : Dict Json}

theorem empty (base : Dict Json) : IsOverlay .empty base base := fun _ => rfl

/-- An entry may be put into both. -/
theorem insert (h : IsOverlay own base d) (k : String) (v : Json) :
    IsOverlay (own.insert k v) base (d.insert k v) := by
  intro k'
  rw [get?_insert, get?_insert, h k']
  by_cases hk : k' = k
  · rw [if_pos hk, if_pos hk, Option.some_or]
  · rw [if_neg hk, if_neg hk]

/-- So may a text, if it is present. -/
theorem insertText (h : IsOverlay own base d) (k : String) (s : Option String) :
    IsOverlay (Principal.insertText k s own) base (Principal.insertText k s d) := by
  cases s with
  | none => exact h
  | some s => exact h.insert k (.string s)

end Dict.IsOverlay

namespace Principal

variable {p : Principal} {name : String}

/-! ## The two sources of the context -/

/-- The data of a principal without its further attributes. -/
def ownData (p : Principal) : Dict Json := { p with attributes := .empty }.userData

/-- **Own data is put over further attributes**, which fill the gaps. -/
theorem isOverlay_userData (p : Principal) :
    Dict.IsOverlay p.ownData p.attributes p.userData :=
  .insert (.insert (.insertText (.insertText (.insertText (.insert (.empty p.attributes)
    _ _) _ _) _ _) _ _) _ _) _ _

/-- A principal lacks what it has a place for: it has no address, no department or no
location. -/
inductive Lacks (p : Principal) : String → Prop
  /-- There is no address. -/
  | email (h : p.email = "") : p.Lacks "email"
  /-- There is no department. -/
  | department (h : p.department = none) : p.Lacks "department"
  /-- There is no location. -/
  | location (h : p.location = none) : p.Lacks "location"

theorem get?_insertText (key : String) (s : Option String) (d : Dict Json) (k : String) :
    (insertText key s d).get? k =
      if k = key then (s.map Json.string).or (d.get? k) else d.get? k := by
  cases s <;> simp [insertText]

/-- What a principal lacks is not among its own data. -/
theorem get?_ownData_of_lacks (h : p.Lacks name) : p.ownData.get? name = none := by
  cases h with
  | email h => simp [ownData, userData, get?_insertText, h]
  | department h => simp [ownData, userData, get?_insertText, h]
  | location h => simp [ownData, userData, get?_insertText, h]

theorem at?_context (p : Principal) (name : String) :
    p.context.at? ["user", name] = p.userData.get? name := by
  simp [context, Json.at?, Json.field?, Json.ofDict, Dict.valueAt?, Dict.get?]

/-- **A reference to what is lacking** leads to the further attribute of that name. -/
theorem at?_context_of_lacks (h : p.Lacks name) :
    p.context.at? ["user", name] = p.attributes.get? name := by
  rw [at?_context, isOverlay_userData, get?_ownData_of_lacks h, Option.none_or]

/-! ## What conditions make of it -/

/-- A reference to data that is neither the principal's own nor a further attribute denies, as
itself or in a list and whatever the operator. -/
theorem isDead_of_lacks {permission : Permission} (h : p.Lacks name)
    (hnone : p.attributes.get? name = none)
    (hrefers : ["user", name] ∈ Conditions.paths permission.conditions) :
    permission.IsDead p.context := by
  obtain ⟨cs, field, condition, hcs, hcondition, hpath⟩ := Conditions.mem_paths.1 hrefers
  have hnowhere : p.context.at? ["user", name] = none := by
    rw [at?_context_of_lacks h, hnone]
  exact ⟨cs, field, condition, hcs, hcondition, .unresolved _ hpath hnowhere⟩

/-- A permission for the records whose name differs from what is at a path. -/
def differing (path : List String) : Permission where
  conditions := some <| .ofList [("name", ⟨.known .ne, .reference path⟩)]

/-- If something is at the path, the record without any field is such a record. -/
theorem accept_differing {path : List String} {v : Json} (h : p.context.at? path = some v) :
    Conditions.accept (differing path).conditions p.context .empty = true := by
  have hfield : isReserved "name" = false := by decide
  simp [differing, Conditions.accept, Dict.all, Dict.ofList, Dict.insert, Dict.insertEntry,
    Dict.empty, hfield, Condition.accepts_eq_any, Operand.resolve, h, Operator.holds,
    Comparison.holds, Comparison.equals, Dict.get?, Dict.valueAt?]

/-- **What a principal lacks stays unresolved exactly if no further attribute has its name.** Let a
principal have no address, no department or no location. Operands that refer to it, as themselves
or in a list, have no value in the context, and permissions with a condition that refers to it let
no record through and have the predicate that selects nothing, whatever the operator: each of
these holds if and only if the principal has no further attribute of the same name. A further
attribute takes the place of what is lacking. -/
theorem unresolved_iff_of_lacks (h : p.Lacks name) :
    ((∀ o : Operand, ["user", name] ∈ o.paths → o.resolve p.context = none) ↔
        p.attributes.contains name = false) ∧
      ((∀ permission : Permission, ["user", name] ∈ Conditions.paths permission.conditions →
          (∀ record, Conditions.accept permission.conditions p.context record = false) ∧
            Predicate.ofConditions permission.conditions p.context = .nothing) ↔
        p.attributes.contains name = false) ∧
      p.context.at? ["user", name] = p.attributes.get? name := by
  have hcontains : p.attributes.contains name = false ↔ p.attributes.get? name = none := by
    rw [Dict.contains, Option.isSome_eq_false_iff, Option.isNone_iff_eq_none]
  have hat := at?_context_of_lacks h
  refine ⟨?_, ?_, hat⟩
  · rw [hcontains]
    constructor
    · intro hoperands
      have hreference := hoperands (.reference ["user", name]) List.mem_cons_self
      rw [Operand.resolve, hat] at hreference
      exact hreference
    · intro hnone o hpath
      exact (Operand.resolve_eq_none_iff o).2 ⟨_, hpath, hat.trans hnone⟩
  · rw [hcontains]
    constructor
    · intro hpermissions
      -- A permission that asks for no more than a difference lets through what it can.
      by_contra hsome
      obtain ⟨v, hv⟩ := Option.ne_none_iff_exists'.1 hsome
      obtain ⟨hdenies, -⟩ := hpermissions (differing ["user", name]) List.mem_cons_self
      have hdenied := hdenies .empty
      rw [accept_differing (hat.trans hv)] at hdenied
      cases hdenied
    · intro hnone permission hrefers
      have hnothing := Predicate.ofConditions_eq_nothing_iff.2 (isDead_of_lacks h hnone hrefers)
      refine ⟨fun record => ?_, hnothing⟩
      rw [← Predicate.selects_ofConditions, hnothing]
      rfl

end Principal

/-! ### A contractor without a department -/

/-- A permission for the employees of the main office and of the own department. -/
def nearbyEmployees : Permission where
  entityType := "employees"
  actions := ["read"]
  conditions := some <| .ofList
    [("department", ⟨.known .oneOf,
      .list [.literal (.string "HQ"), .reference ["user", "department"]]⟩)]

/-- A request for employees of a principal that has no department, but a further attribute. -/
def contractorRequest (key : String) (value : Json) : Request where
  principal :=
    { id := "u-1"
      roles := .ofList ["contractor"]
      permissions := [nearbyEmployees]
      attributes := .ofList [(key, value)] }
  action := "read"
  entityType := "employees"

/-- An employee of a department. -/
def memberOf (department : String) : Record := .ofList [("department", .string department)]

/-- With an attribute of another name the contractor sees nobody, not even in the main office. -/
theorem unresolved_contractorRequest :
    (contractorRequest "region" (.string "north")).principal.Lacks "department" ∧
      (∀ record, Conditions.accept nearbyEmployees.conditions
        (contractorRequest "region" (.string "north")).principal.context record = false) ∧
      Predicate.ofConditions nearbyEmployees.conditions
        (contractorRequest "region" (.string "north")).principal.context = .nothing := by
  have hlacks : (contractorRequest "region" (.string "north")).principal.Lacks "department" :=
    .department rfl
  have hnone :
      (contractorRequest "region" (.string "north")).principal.attributes.contains "department" =
        false := by
    decide
  have hrefers : ["user", "department"] ∈ Conditions.paths nearbyEmployees.conditions := by decide
  obtain ⟨-, hpermissions, -⟩ := Principal.unresolved_iff_of_lacks hlacks
  exact ⟨hlacks, hpermissions.2 hnone nearbyEmployees hrefers⟩

/-- **An attribute takes the place of the department** that the contractor does not have: the
reference leads to it, and the employees of the department that it names are seen and selected. -/
theorem resolved_contractorRequest :
    (contractorRequest "department" (.string "Ops")).principal.department = none ∧
      (Operand.reference ["user", "department"]).resolve
          (contractorRequest "department" (.string "Ops")).principal.context =
        some (.string "Ops") ∧
      (contractorRequest "department" (.string "Ops")).seesRecord (memberOf "Ops") = true ∧
      (contractorRequest "department" (.string "Ops")).predicate.selects (memberOf "Ops") =
        true := by
  refine ⟨rfl, rfl, ?_, ?_⟩
  · decide
  · decide

end AccessPolicy
