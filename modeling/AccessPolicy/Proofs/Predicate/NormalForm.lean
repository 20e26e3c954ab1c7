import AccessPolicy.Proofs.DeadPermission
import AccessPolicy.Proofs.Predicate.Disjunction

/-!
# The normal form of generated predicates

The predicate of a request has one of four forms: everything, nothing, one conjunction of filters,
or a disjunction of at least two of them. Conjunctions are not empty, no filter stands on a
reserved name, and every filter has a value that its comparison can do something with.

Which of the forms it is can be read off the permissions that count. One without conditions makes
it everything. Otherwise the dead ones add nothing, and each of the others adds one conjunction,
in their order, with a filter for each of its conditions.

## Main definitions

* `Filter.IsNormal`, `Predicate.IsConjunction`, `Predicate.IsNormal` — the normal form.
* `Predicate.FiltersFieldsOf` — a conjunction on the fields that a permission has conditions on.

## Main statements

* `Predicate.isConjunction_ofConditions` — what a permission adds that is not dead.
* `Predicate.isNormal_ofBranches` — a disjunction of conjunctions is in normal form.
* `Request.predicate_normalForm` — the form of a predicate, and when it is which.
-/
namespace AccessPolicy

/-! ## Filters and conjunctions -/

/-- The value of a filter is of a kind that its comparison needs. -/
structure Filter.IsNormal (f : Filter) : Prop where
  /-- A comparison with a list has a list. -/
  listed : f.comparison ∈ [Comparison.oneOf, .noneOf] → f.value.kindName = "array"
  /-- An order has a number or a text. -/
  ordered : f.comparison ∈ [Comparison.gt, .lt, .gte, .lte] →
    f.value.kindName ∈ ["number", "string"]
  /-- A part is a part of a text. -/
  contained : f.comparison = .contains → f.value.kindName = "string"

namespace Predicate

/-- A conjunction of filters in normal form, at least one, none of them on a reserved name. -/
inductive IsConjunction : Predicate → Prop
  | every (filters : Dict Filter) (hsome : filters.keys ≠ [])
      (h : ∀ field f, filters.get? field = some f → field ∉ reservedNames ∧ f.IsNormal) :
      IsConjunction (.every filters)

/-- A predicate in normal form. -/
inductive IsNormal : Predicate → Prop
  | all : IsNormal .all
  | nothing : IsNormal .nothing
  | conjunction (p : Predicate) (h : p.IsConjunction) : IsNormal p
  | either (ps : List Predicate) (hlength : 2 ≤ ps.length) (h : ∀ p ∈ ps, p.IsConjunction) :
      IsNormal (.either ps)

/-- The predicate is a conjunction with one filter for each field that a permission has a
condition on, and with no other. -/
def FiltersFieldsOf (permission : Permission) (p : Predicate) : Prop :=
  ∃ cs filters, permission.conditions = some cs ∧ p = .every filters ∧ filters.keys = cs.keys

end Predicate

/-- Every filter that is made for an operator is in normal form. -/
theorem Filter.isNormal_of_ofOperator? {o : Operator} {v : Json} {f : Filter}
    (h : ofOperator? o v = some f) : f.IsNormal := by
  cases o with
  | unknown name => cases h
  | known c =>
    rw [ofOperator?] at h
    split at h
    · rename_i hsatisfiable
      cases h
      have hkinds : ¬ (c ∈ [Comparison.gt, .lt, .gte, .lte] ∧ v.kindName ∉ ["number", "string"] ∨
          c = .contains ∧ v.kindName ≠ "string") := by
        rw [← isSatisfiable_eq_false_iff, hsatisfiable]
        exact Bool.true_eq_false.mp
      constructor
      case listed => cases c <;> simp [listValue, Json.kindName]
      case ordered =>
        intro horder
        have hvalue : listValue c v = v := by cases c <;> simp at horder <;> rfl
        rw [hvalue]
        exact Decidable.by_contra fun hkind => hkinds (.inl ⟨horder, hkind⟩)
      case contained =>
        rintro rfl
        exact Decidable.by_contra fun hkind => hkinds (.inr ⟨rfl, hkind⟩)
    · cases h

namespace Predicate

/-- The filter of a condition is in normal form, and its field is not reserved. -/
theorem isNormal_of_filter? {context : Json} {field : String} {c : Condition} {f : Filter}
    (h : filter? context field c = some f) : field ∉ reservedNames ∧ f.IsNormal := by
  rw [filter?, isReserved] at h
  by_cases hreserved : field ∈ reservedNames
  · simp [hreserved] at h
  · rw [if_neg (by simpa using hreserved), Option.bind_eq_some_iff] at h
    obtain ⟨v, -, hv⟩ := h
    exact ⟨hreserved, Filter.isNormal_of_ofOperator? hv⟩

/-! ## The predicates of permissions -/

/-- **A permission with conditions that is not dead** adds a conjunction on the fields that it
has conditions on. -/
theorem isConjunction_ofConditions {p : Permission} {context : Json}
    (hconditional : p.isUnconditional = false) (hlive : ¬ p.IsDead context) :
    (ofConditions p.conditions context).IsConjunction ∧
      FiltersFieldsOf p (ofConditions p.conditions context) := by
  rw [← ofConditions_eq_nothing_iff] at hlive
  rw [FiltersFieldsOf]
  rw [Permission.isUnconditional] at hconditional
  cases hcs : p.conditions with
  | none => simp [hcs] at hconditional
  | some cs =>
    have hsome : cs.isEmpty = false := by simpa [hcs] using hconditional
    rw [hcs, ofConditions, hsome] at hlive
    rw [ofConditions, hsome]
    cases hm : cs.mapM? (filter? context) with
    | none => simp [hm] at hlive
    | some filters =>
      have hkeys : filters.keys = cs.keys := Dict.keys_mapM? hm
      refine ⟨.every filters ?_ ?_, cs, filters, rfl, rfl, hkeys⟩
      · rw [hkeys]
        simpa [Dict.keys, Dict.isEmpty] using hsome
      · intro field f hf
        rw [Dict.get?_mapM? hm, Option.bind_eq_some_iff] at hf
        obtain ⟨c, -, hc⟩ := hf
        exact isNormal_of_filter? hc

/-! ## Disjunctions -/

theorem branches_of_isConjunction {p : Predicate} (h : p.IsConjunction) : p.branches = [p] := by
  cases h
  rfl

/-- Conjunctions can be read off their disjunction. -/
theorem branches_ofBranches {ps : List Predicate} (h : ∀ p ∈ ps, p.IsConjunction) :
    (ofBranches ps).branches = ps :=
  branches_ofBranches_of_forall fun p hp => branches_of_isConjunction (h p hp)

/-- **A disjunction of conjunctions** is in normal form. -/
theorem isNormal_ofBranches {ps : List Predicate} (h : ∀ p ∈ ps, p.IsConjunction) :
    (ofBranches ps).IsNormal := by
  match ps with
  | [] => exact .nothing
  | [p] => exact .conjunction p (h p List.mem_cons_self)
  | p :: q :: rest => exact .either _ (by simp) h

/-- Conjunctions do not add up to everything. -/
theorem ofBranches_ne_all {ps : List Predicate} (h : ∀ p ∈ ps, p.IsConjunction) :
    ofBranches ps ≠ .all := by
  intro hall
  have hparts : ps = [.all] := by
    rw [← branches_ofBranches h, hall]
    rfl
  have hmem : .all ∈ ps := by
    rw [hparts]
    exact List.mem_cons_self
  cases h .all hmem

/-- Only no conjunctions at all add up to nothing. -/
theorem ofBranches_eq_nothing_iff {ps : List Predicate} (h : ∀ p ∈ ps, p.IsConjunction) :
    ofBranches ps = .nothing ↔ ps = [] := by
  constructor
  · intro hnothing
    rw [← branches_ofBranches h, hnothing]
    rfl
  · rintro rfl
    rfl

/-- What a permission with conditions adds to a disjunction are conjunctions. -/
theorem isConjunction_of_mem_branches {p : Permission} {context : Json} {q : Predicate}
    (hconditional : p.isUnconditional = false)
    (hq : q ∈ (ofConditions p.conditions context).branches) : q.IsConjunction := by
  by_cases hdead : p.IsDead context
  · rw [ofConditions_eq_nothing_iff.2 hdead] at hq
    cases hq
  · have hconjunction := (isConjunction_ofConditions hconditional hdead).1
    rw [branches_of_isConjunction hconjunction, List.mem_singleton] at hq
    rwa [hq]

/-- **What permissions with conditions add** to a disjunction: the dead ones nothing, and each of
the others one conjunction, in their order. -/
theorem forall₂_branches (context : Json) : ∀ {ps : List Permission},
    (∀ p ∈ ps, p.isUnconditional = false) →
      List.Forall₂ FiltersFieldsOf (ps.filter fun p => ¬ p.IsDead context)
        ((ps.map fun p => ofConditions p.conditions context).flatMap branches)
  | [], _ => .nil
  | p :: rest, h => by
    have hrest := forall₂_branches context fun q hq => h q (List.mem_cons_of_mem p hq)
    rw [List.map_cons, List.flatMap_cons]
    by_cases hdead : p.IsDead context
    · rw [List.filter_cons_of_neg (by simpa using hdead), ofConditions_eq_nothing_iff.2 hdead]
      exact hrest
    · obtain ⟨hconjunction, hfields⟩ := isConjunction_ofConditions (h p List.mem_cons_self) hdead
      rw [List.filter_cons_of_pos (by simpa using hdead), branches_of_isConjunction hconjunction]
      exact .cons hfields hrest

end Predicate

/-! ## Requests -/

theorem Permission.isUnconditional_iff {p : Permission} :
    p.isUnconditional = true ↔ p.conditions = none ∨ p.conditions = some .empty := by
  rw [isUnconditional]
  cases p.conditions with
  | none => simp
  | some cs =>
    rw [Option.all_some, Dict.isEmpty, List.isEmpty_iff, Option.some.injEq]
    constructor
    · intro hentries
      exact .inr (Dict.ext hentries)
    · rintro (h | rfl)
      · cases h
      · rfl

namespace Request

open Predicate

/-- **How the predicate of a request comes about**: it is everything because of a permission
without conditions, or else a disjunction of conjunctions, one for each permission that is not
dead. -/
theorem predicate_cases (r : Request) :
    (r.predicate = .all ∧ ∃ p ∈ r.permissions, p.isUnconditional = true) ∨
    (∀ p ∈ r.permissions, p.isUnconditional = false) ∧ ∃ parts, r.predicate = ofBranches parts ∧
      (∀ q ∈ parts, q.IsConjunction) ∧
      List.Forall₂ FiltersFieldsOf (r.permissions.filter fun p => ¬ p.IsDead r.context) parts := by
  rw [predicate_eq_anyOf]
  by_cases hfree : ∃ p ∈ r.permissions, p.isUnconditional = true
  · obtain ⟨p, hp, hun⟩ := hfree
    have hmem : .all ∈ r.permissions.map fun p => ofConditions p.conditions r.context :=
      List.mem_map.2 ⟨p, hp, ofConditions_eq_all_iff.2 hun⟩
    exact .inl ⟨anyOf_eq_all hmem, p, hp, hun⟩
  · have hconditional : ∀ p ∈ r.permissions, p.isUnconditional = false := by
      intro p hp
      rw [Bool.eq_false_iff]
      exact fun hun => hfree ⟨p, hp, hun⟩
    refine .inr ⟨hconditional, _, ?_, ?_, forall₂_branches r.context hconditional⟩
    · rw [anyOf, if_neg]
      rw [List.any_eq_true]
      rintro ⟨q, hq, hall⟩
      obtain ⟨p, hp, rfl⟩ := List.mem_map.1 hq
      exact hfree ⟨p, hp, ofConditions_eq_all_iff.1 (isAll_iff.1 hall)⟩
    · intro q hq
      obtain ⟨part, hpart, hmem⟩ := List.mem_flatMap.1 hq
      obtain ⟨p, hp, rfl⟩ := List.mem_map.1 hpart
      exact isConjunction_of_mem_branches (hconditional p hp) hmem

/-- **The predicate of a request is in normal form.** -/
theorem isNormal_predicate (r : Request) : r.predicate.IsNormal := by
  obtain ⟨hall, -⟩ | ⟨-, parts, hparts, hconjunctions, -⟩ := r.predicate_cases
  · rw [hall]
    exact .all
  · rw [hparts]
    exact isNormal_ofBranches hconjunctions

/-- Some permission that counts has no conditions exactly if the principal is a superuser, whose
only permission has none, or a permission is given without any. -/
theorem exists_isUnconditional_iff {r : Request} :
    (∃ p ∈ r.permissions, p.isUnconditional = true) ↔ r.principal.isSuperuser = true ∨
      ∃ p ∈ r.permissions, p.conditions = none ∨ p.conditions = some .empty := by
  simp only [Permission.isUnconditional_iff]
  constructor
  · exact .inr
  · rintro (hsuper | hfree)
    · have hunrestricted : unrestricted ∈ r.permissions := by
        rw [permissions, if_pos hsuper]
        exact List.mem_cons_self
      exact ⟨unrestricted, hunrestricted, .inl rfl⟩
    · exact hfree

/-- **The normal form of the predicate of a request.** It is everything if the principal is a
superuser or some permission that counts has no conditions, and only then. Otherwise it is nothing
if all permissions that count are dead, and only then; and it has one conjunction for each that is
not, in their order, on exactly the fields of its conditions. -/
theorem predicate_normalForm (r : Request) :
    r.predicate.IsNormal ∧
      (r.predicate = .all ↔ r.principal.isSuperuser = true ∨
        ∃ p ∈ r.permissions, p.conditions = none ∨ p.conditions = some .empty) ∧
      (r.predicate ≠ .all →
        (r.predicate = .nothing ↔ ∀ p ∈ r.permissions, p.IsDead r.context) ∧
        List.Forall₂ FiltersFieldsOf (r.permissions.filter fun p => ¬ p.IsDead r.context)
          r.predicate.branches) := by
  refine ⟨r.isNormal_predicate, ?_⟩
  rw [← exists_isUnconditional_iff]
  obtain ⟨hall, hfree⟩ | ⟨hconditional, parts, hparts, hconjunctions, hfields⟩ :=
    r.predicate_cases
  · exact ⟨iff_of_true hall hfree, fun hne => absurd hall hne⟩
  · rw [hparts, branches_ofBranches hconjunctions, ofBranches_eq_nothing_iff hconjunctions]
    refine ⟨iff_of_false (ofBranches_ne_all hconjunctions) ?_, fun _ => ⟨?_, hfields⟩⟩
    · rintro ⟨p, hp, hun⟩
      rw [hconditional p hp] at hun
      cases hun
    · rw [← List.length_eq_zero_iff, ← hfields.length_eq, List.length_eq_zero_iff,
        List.filter_eq_nil_iff]
      simp

end Request

/-! ### Two conjunctions -/

/-- A permission whose only condition, on the author of a document, has an operator that is not
known. -/
def ownDocuments : Permission where
  entityType := "documents"
  actions := ["read"]
  conditions := some <| .ofList [("author", ⟨.unknown "is", .reference ["user", "id"]⟩)]

/-- A permission for documents that are neither drafts nor long. -/
def shortDocuments : Permission where
  entityType := "documents"
  actions := ["read"]
  conditions := some <| .ofList
    [ ("status", ⟨.known .noneOf, .literal (.string "draft")⟩),
      ("pages", ⟨.known .lte, .literal (.number (.int 10))⟩) ]

/-- A request of a principal with three permissions, the first of which is dead. -/
def readerRequest : Request where
  principal := { id := "u-1", permissions := [ownDocuments, shortDocuments, openDocuments] }
  action := "read"
  entityType := "documents"

/-- The predicate is a disjunction of two conjunctions, on the pages and the status for the second
permission and on the status for the third. -/
theorem predicate_readerRequest :
    readerRequest.predicate.IsNormal ∧ readerRequest.predicate ≠ .all ∧
      readerRequest.predicate ≠ .nothing ∧
      List.Forall₂ Predicate.FiltersFieldsOf [shortDocuments, openDocuments]
        readerRequest.predicate.branches := by
  obtain ⟨hnormal, -, hform⟩ := Request.predicate_normalForm readerRequest
  have hall : readerRequest.predicate ≠ .all := mt Predicate.isAll_iff.2 (by decide)
  obtain ⟨hnothing, hfields⟩ := hform hall
  have hlive : readerRequest.permissions.filter (fun p => ¬ p.IsDead readerRequest.context) =
      [shortDocuments, openDocuments] := rfl
  refine ⟨hnormal, hall, ?_, hlive ▸ hfields⟩
  rw [ne_eq, hnothing]
  decide

end AccessPolicy
