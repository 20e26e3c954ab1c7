import AccessPolicy.Proofs.Dict
import AccessPolicy.Proofs.Predicate.Disjunction

/-!
# Records selected here and by a store

There are two ways to the records that a request may see: conditions are tested on each
record, or they are turned into a predicate and a store selects. The second way drops
conditions that no record can pass, puts expected values into a normal form, flattens
disjunctions and stops early; none of that changes which records come out.

The argument follows the construction of a predicate from below. A filter passes what its
operator holds of, a set of filters what the conditions accept, and a disjunction what one of
its parts selects. A construction that may give nothing is always compared through
`Option.any`: what is not there passes nothing.

## Main statements

* `Filter.any_ofOperator?` — the filter of an operator, if there is one, passes what the
  operator holds of.
* `Predicate.selects_ofConditions` — the predicate of conditions selects what they accept.
* `Predicate.selects_anyOf` — a disjunction selects what one of its parts selects.
* `Request.filterRecords_eq_select` — both ways give the same list of records.
-/
namespace AccessPolicy

/-! ## Filters -/

namespace Filter

/-- Nothing is ordered against a value that is neither a number nor a text. -/
theorem compare?_eq_none {expected : Json} (h : isSatisfiable .gt expected = false) (v : Json) :
    v.compare? expected = none := by
  cases expected with
  | number n => simp [isSatisfiable] at h
  | string s => simp [isSatisfiable] at h
  | _ => cases v <;> rfl

theorem ordered_eq_false {expected : Json} (h : isSatisfiable .gt expected = false)
    (value : Option Json) (accept : Ordering → Bool) :
    Comparison.ordered value expected accept = false := by
  cases value with
  | none => rfl
  | some v => simp [Comparison.ordered, compare?_eq_none h v]

/-- **A value that a filter refuses** is one that no field value compares with. -/
theorem holds_eq_false {c : Comparison} {expected : Json} (h : isSatisfiable c expected = false)
    (value : Option Json) : c.holds value expected = false := by
  cases c with
  | gt => exact ordered_eq_false h value _
  | lt => exact ordered_eq_false h value _
  | gte => exact ordered_eq_false h value _
  | lte => exact ordered_eq_false h value _
  | contains =>
    cases expected with
    | string s => simp [isSatisfiable] at h
    | _ => rcases value with _ | (_ | _ | _ | _ | _ | _) <;> rfl
  | eq => simp [isSatisfiable] at h
  | ne => simp [isSatisfiable] at h
  | oneOf => simp [isSatisfiable] at h
  | noneOf => simp [isSatisfiable] at h

/-- Listing the members of a value once more changes no comparison. -/
theorem holds_listValue (c : Comparison) (value : Option Json) (expected : Json) :
    c.holds value (listValue c expected) = c.holds value expected := by
  cases c <;> rfl

/-- **The filter of an operator** passes what the operator holds of. -/
theorem any_ofOperator? (o : Operator) (expected : Json) (value : Option Json) :
    (ofOperator? o expected).any (·.passes value) = o.holds value expected := by
  cases o with
  | unknown name => rfl
  | known c =>
    by_cases h : isSatisfiable c expected = true
    · simp [ofOperator?, h, passes, holds_listValue, Operator.holds]
    · have hfalse : isSatisfiable c expected = false := by simpa using h
      simp [ofOperator?, hfalse, Operator.holds, holds_eq_false hfalse]

end Filter

/-! ## Conditions -/

namespace Condition

/-- What a condition accepts, in one line: its operator has to hold of the resolved operand. -/
theorem accepts_eq_any (c : Condition) (context : Json) (value : Option Json) :
    c.accepts context value = (c.operand.resolve context).any (c.operator.holds value) := by
  simp only [accepts]
  cases c.operator with
  | unknown name => cases c.operand.resolve context <;> rfl
  | known comparison => cases c.operand.resolve context <;> rfl

end Condition

namespace Predicate

/-- The filter of a condition passes what the condition accepts on a field that is not
reserved. -/
theorem any_filter? (context : Json) (field : String) (c : Condition) (value : Option Json) :
    (filter? context field c).any (·.passes value) =
      (!isReserved field && c.accepts context value) := by
  simp only [filter?]
  by_cases hr : isReserved field = true
  · simp [hr]
  · rw [if_neg hr, Condition.accepts_eq_any]
    cases c.operand.resolve context with
    | none => simp
    | some expected => simp [Filter.any_ofOperator?, hr]

/-- **The predicate of conditions** selects what the conditions accept, in every context. -/
theorem selects_ofConditions (conditions : Option Conditions) (context : Json)
    (record : Record) :
    (ofConditions conditions context).selects record =
      Conditions.accept conditions context record := by
  cases conditions with
  | none => rfl
  | some cs =>
    have hfilters := Dict.any_mapM?_all (fun field c => any_filter? context field c
      (record.get? field)) cs
    simp only [ofConditions]
    by_cases hempty : cs.isEmpty = true
    · -- No condition is left to fail, which is why the short form is sound.
      have hentries : cs.entries = [] := by simpa [Dict.isEmpty] using hempty
      simp [hempty, selects, Conditions.accept, Dict.all, hentries]
    · rw [if_neg hempty]
      cases hm : cs.mapM? (filter? context) with
      | none =>
        rw [hm] at hfilters
        simpa [selects, Conditions.accept] using hfilters
      | some filters =>
        rw [hm] at hfilters
        simpa [selects, Conditions.accept] using hfilters

/-! ## Disjunctions -/

theorem selectsAny_eq_any (record : Record) (ps : List Predicate) :
    selectsAny record ps = ps.any fun p => p.selects record := by
  induction ps with
  | nil => rfl
  | cons p rest ih => simp [selectsAny, ih]

/-- The branches of a predicate, taken together, select what it selects, unless it has to be
kept as the predicate that selects every record. -/
theorem any_branches (record : Record) (p : Predicate) :
    p.branches.any (·.selects record) = p.selects record := by
  cases p with
  | all => rfl
  | nothing => rfl
  | every filters => simp [branches]
  | either ps => simp [branches, selects, selectsAny_eq_any]

theorem selects_ofBranches (record : Record) (ps : List Predicate) :
    (ofBranches ps).selects record = ps.any fun p => p.selects record := by
  match ps with
  | [] => rfl
  | [p] => simp [ofBranches]
  | p :: q :: rest => simp [ofBranches, selects, selectsAny_eq_any]

/-- **A disjunction** selects what one of its parts selects. -/
theorem selects_anyOf (record : Record) (ps : List Predicate) :
    (anyOf ps).selects record = ps.any fun p => p.selects record := by
  rw [anyOf]
  by_cases hall : ps.any isAll = true
  · rw [if_pos hall]
    obtain ⟨p, hp, hisAll⟩ := List.any_eq_true.1 hall
    have hselects : p.selects record = true := by cases p <;> simp_all [isAll, selects]
    exact (List.any_eq_true.2 ⟨p, hp, hselects⟩).symm
  · rw [if_neg hall, selects_ofBranches, List.any_flatMap]
    simp only [any_branches]

end Predicate

/-! ## Requests -/

namespace Request

/-- **The predicate of a request** selects the records that the request may see. -/
theorem selects_predicate (r : Request) (record : Record) :
    r.predicate.selects record = r.seesRecord record := by
  have hselects : r.predicate.selects record =
      r.permissions.any fun p => Conditions.accept p.conditions r.context record := by
    rw [predicate_eq_anyOf, Predicate.selects_anyOf, List.any_map]
    simp only [Function.comp_def, Predicate.selects_ofConditions]
  rw [hselects, seesRecord]
  by_cases hsuper : r.principal.isSuperuser = true
  · -- The only permission of a superuser accepts every record.
    simp [permissions, hsuper, unrestricted, Conditions.accept]
  · simp [hsuper]

/-- The records that a request keeps are those that it sees one by one. -/
theorem filterRecords_eq_filter (r : Request) (records : List Record) :
    r.filterRecords records = records.filter r.seesRecord := by
  rw [filterRecords]
  by_cases hsuper : r.principal.isSuperuser = true
  · have hsees : ∀ record ∈ records, r.seesRecord record = true := by
      intro record _
      simp [seesRecord, hsuper]
    rw [if_pos hsuper, List.filter_eq_self.2 hsees]
  · rw [if_neg hsuper]

theorem mem_filterRecords {r : Request} {records : List Record} {record : Record} :
    record ∈ r.filterRecords records ↔ record ∈ records ∧ r.seesRecord record = true := by
  rw [filterRecords_eq_filter, List.mem_filter]

/-- **Both ways give the same records**, in the same order and as often. The records kept by a
request, those that its predicate selects and those that it sees one by one are one list; and
so it is one level down, for any conditions, or none, and any value as the context. -/
theorem filterRecords_eq_select :
    (∀ (r : Request) (records : List Record),
      r.filterRecords records = r.predicate.select records ∧
        r.predicate.select records = records.filter r.seesRecord) ∧
    ∀ (conditions : Option Conditions) (context : Json) (records : List Record),
      Conditions.filter conditions context records =
        (Predicate.ofConditions conditions context).select records := by
  refine ⟨fun r records => ?_, fun conditions context records => ?_⟩
  · have hselect : r.predicate.select records = records.filter r.seesRecord := by
      rw [Predicate.select]
      congr 1
      funext record
      exact selects_predicate r record
    refine ⟨?_, hselect⟩
    rw [hselect, filterRecords]
    by_cases hsuper : r.principal.isSuperuser = true
    · rw [if_pos hsuper]
      have hsees : ∀ record ∈ records, r.seesRecord record = true := by
        intro record _
        simp [seesRecord, hsuper]
      exact (List.filter_eq_self.2 hsees).symm
    · rw [if_neg hsuper]
  · rw [Conditions.filter, Predicate.select]
    congr 1
    funext record
    exact (Predicate.selects_ofConditions conditions context record).symm

end Request

end AccessPolicy
