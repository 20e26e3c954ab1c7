import AccessPolicy.Proofs.Answers
import AccessPolicy.Proofs.Predicate.Agreement

/-!
# Hidden values do not show in a listing

A listing first keeps the records that may be seen and then cuts each of them down to the fields
that may be seen. A value can have an effect on it in three ways only: it stands in a field that
every listing shows, in a field that the request may see, or in a field on which a permission that
counts has a condition. All other values are hidden: two stores that differ in nothing else give
the same listing, with the same rows in the same places, so nothing about the difference can be
learned from it.

The argument looks at one pair of records first. Conditions read the fields they are on and no
others, and cutting down reads the fields it keeps and no others; a list of records adds nothing
to that.

## Main definitions

* `Dict.AgreeOn` — two dictionaries with the same values, or none, under some keys.
* `Request.observes` — whether a value in a field can have an effect on a listing.

## Main statements

* `Conditions.accept_congr` — conditions read the fields they are on.
* `Request.seesRecord_congr`, `Request.project_congr` — one pair of records.
* `Request.projectAll_congr` — hidden values do not show in a listing.
-/
namespace AccessPolicy

/-- Two dictionaries agree on keys if each of these has the same value in both, or none in
both. -/
def Dict.AgreeOn {α : Type} (observed : String → Bool) (d e : Dict α) : Prop :=
  ∀ k, observed k = true → d.get? k = e.get? k

/-! ## What is read of a record -/

variable {a b : Record}

/-- **Conditions read the fields they are on** and no others. -/
theorem Conditions.accept_congr {conditions : Option Conditions}
    (h : a.AgreeOn (fun field => conditions.any (·.contains field)) b) (context : Json) :
    accept conditions context a = accept conditions context b := by
  cases conditions with
  | none => rfl
  | some cs =>
    rw [accept, accept, Option.all_some, Option.all_some]
    apply Dict.all_congr
    intro field c hc
    have hcontains : cs.contains field = true := by simp [Dict.contains, hc]
    rw [h field hcontains]

/-- Keeping and then changing items gives the same list for two lists whose items are kept and
changed alike. -/
theorem map_filter_congr {α β : Type} {R : α → α → Prop} {p : α → Bool} {f : α → β}
    (hp : ∀ x y, R x y → p x = p y) (hf : ∀ x y, R x y → f x = f y) {xs ys : List α}
    (h : List.Forall₂ R xs ys) : (xs.filter p).map f = (ys.filter p).map f := by
  induction h with
  | nil => rfl
  | @cons x y xs ys hxy _ ih =>
    cases hkept : p x with
    | true =>
      have hkept' : p y = true := hp x y hxy ▸ hkept
      rw [List.filter_cons_of_pos hkept, List.filter_cons_of_pos hkept', List.map_cons,
        List.map_cons, hf x y hxy, ih]
    | false =>
      have hkept' : p y = false := hp x y hxy ▸ hkept
      rw [List.filter_cons_of_neg (by simp [hkept]), List.filter_cons_of_neg (by simp [hkept']), ih]

/-! ## Requests -/

namespace Request

variable {r : Request}

/-- Whether a value in a field can have an effect on a listing: every listing shows the field, the
request may see it, or a permission that counts has a condition on it. -/
def observes (r : Request) (field : String) : Bool :=
  systemFields.contains field || r.seesField field ||
    r.permissions.any fun p => p.conditions.any (·.contains field)

/-- Records that agree where they are observed are seen alike. -/
theorem seesRecord_congr (h : a.AgreeOn r.observes b) : r.seesRecord a = r.seesRecord b := by
  have haccept : ∀ p ∈ r.permissions,
      Conditions.accept p.conditions r.context a = Conditions.accept p.conditions r.context b := by
    intro p hp
    apply Conditions.accept_congr
    intro field hfield
    apply h
    rw [observes, Bool.or_eq_true, List.any_eq_true]
    exact .inr ⟨p, hp, hfield⟩
  rw [seesRecord, seesRecord, Bool.eq_iff_iff, Bool.or_eq_true, Bool.or_eq_true,
    List.any_eq_true, List.any_eq_true]
  refine or_congr_right (exists_congr fun p => and_congr_right ?_)
  intro hp
  rw [haccept p hp]

/-- Records that agree where they are observed are cut down to the same record. -/
theorem project_congr (h : a.AgreeOn r.observes b) : r.project a = r.project b := by
  apply Dict.ext_value
  intro field value
  rw [get?_project_eq_some_iff, get?_project_eq_some_iff]
  refine and_congr_right fun _ => and_congr_left ?_
  intro hkept
  have hobserved : r.observes field = true := by
    rw [observes, Bool.or_eq_true, Bool.or_eq_true, List.contains_iff_mem]
    exact .inl hkept
  rw [h field hobserved]

/-- **Hidden values do not show in a listing.** Let two lists of records have the same length and
agree, record by record, where the request observes them. Then the records that the request may
see, cut down to what it may see of them, are one list for both, whether the records are kept
here or selected by the predicate; and the rows that are left out stand in the same places. -/
theorem projectAll_congr (r : Request) {as bs : List Record}
    (h : List.Forall₂ (Dict.AgreeOn r.observes) as bs) :
    r.projectAll (r.filterRecords as) = r.projectAll (r.filterRecords bs) ∧
      r.projectAll (r.predicate.select as) = r.projectAll (r.predicate.select bs) ∧
      as.map r.seesRecord = bs.map r.seesRecord := by
  have hsees : ∀ a b : Record, a.AgreeOn r.observes b → r.seesRecord a = r.seesRecord b :=
    fun _ _ => seesRecord_congr
  have hproject : ∀ a b : Record, a.AgreeOn r.observes b → r.project a = r.project b :=
    fun _ _ => project_congr
  have hselects : ∀ a b : Record, a.AgreeOn r.observes b →
      r.predicate.selects a = r.predicate.selects b := by
    intro a b hab
    rw [selects_predicate, selects_predicate, hsees a b hab]
  refine ⟨?_, ?_, ?_⟩
  · rw [filterRecords_eq_filter, filterRecords_eq_filter]
    exact map_filter_congr hsees hproject h
  · exact map_filter_congr hselects hproject h
  · induction h with
    | nil => rfl
    | @cons a b as bs hab _ ih => rw [List.map_cons, List.map_cons, hsees a b hab, ih]

end Request

/-! ### Two stores with different salaries -/

/-- A request that may see the names of active employees. -/
def nameRequest : Request where
  principal :=
    { id := "u-1"
      permissions :=
        [ { entityType := "employees"
            actions := ["read"]
            fields := some { allowed := some ["name"] }
            conditions := some <| .ofList
              [("status", ⟨.known .eq, .literal (.string "active")⟩)] } ] }
  action := "read"
  entityType := "employees"

/-- An employee with a salary. -/
def salaryRecord (name status : String) (salary : Int) : Record :=
  (Dict.ofList [("name", .string name), ("status", .string status)]).insert "salary"
    (.number (.int salary))

/-- The salaries are not observed, so stores that differ in them give the same listing: the name
of the one active employee. -/
theorem projectAll_salaryRecord :
    List.Forall₂ (Dict.AgreeOn nameRequest.observes)
        [salaryRecord "Ada" "active" 10, salaryRecord "Bo" "left" 20]
        [salaryRecord "Ada" "active" 90, salaryRecord "Bo" "left" 80] ∧
      nameRequest.projectAll (nameRequest.predicate.select
          [salaryRecord "Ada" "active" 90, salaryRecord "Bo" "left" 80]) =
        [.ofList [("name", .string "Ada")]] := by
  have hagree : ∀ name status salary salary',
      Dict.AgreeOn nameRequest.observes (salaryRecord name status salary)
        (salaryRecord name status salary') := by
    intro name status salary salary' field hobserved
    have hne : field ≠ "salary" := by
      rintro rfl
      exact absurd hobserved (by decide)
    simp [salaryRecord, hne]
  have hstores : List.Forall₂ (Dict.AgreeOn nameRequest.observes)
      [salaryRecord "Ada" "active" 10, salaryRecord "Bo" "left" 20]
      [salaryRecord "Ada" "active" 90, salaryRecord "Bo" "left" 80] :=
    .cons (hagree _ _ _ _) (.cons (hagree _ _ _ _) .nil)
  refine ⟨hstores, ?_⟩
  rw [← (Request.projectAll_congr nameRequest hstores).2.1]
  rfl

end AccessPolicy
