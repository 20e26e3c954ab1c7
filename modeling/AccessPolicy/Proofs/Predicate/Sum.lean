import AccessPolicy.Proofs.Predicate.Agreement
import Mathlib.Algebra.BigOperators.Group.List.Basic

/-!
# Disjunctions add up

A disjunction is put together in a short form. What selects everything ends it, what selects
nothing is left out, disjunctions among its parts are opened, and a single branch stands alone.
Whatever the parts are, it selects what one of them selects.

If the parts are in short form themselves, then so is their disjunction, and it does not matter in
which groups they are put together: disjunction is an addition, with nothing as its zero. The
branches of a predicate carry the argument. A predicate in short form other than everything is
the disjunction of its branches, which are conjunctions, and adding such predicates is appending
their branches.

## Main definitions

* `Predicate.IsFlat` — the short form.
* `Predicate.Flat` — the predicates in short form, with disjunction as their addition.

## Main statements

* `Predicate.isFlat_anyOf`, `Predicate.anyOf_singleton` — disjunctions are in short form, and
  what is in short form is a disjunction of its own.
* `Predicate.anyOf_append` — the grouping of the parts does not matter.
* `Predicate.anyOf_adds_up` — a disjunction selects what one of its parts selects, and it is the
  sum of its parts.
-/
namespace AccessPolicy

namespace Predicate

/-- The short form: everything, nothing, one conjunction of filters, or at least two of them. -/
inductive IsFlat : Predicate → Prop
  | all : IsFlat .all
  | nothing : IsFlat .nothing
  | every (filters : Dict Filter) : IsFlat (.every filters)
  | either (ps : List Predicate) (hlength : 2 ≤ ps.length)
      (h : ∀ p ∈ ps, ∃ filters, p = .every filters) : IsFlat (.either ps)

variable {p : Predicate} {ps qs : List Predicate}

/-! ## Branches -/

/-- The branches of a predicate in short form are conjunctions, unless it is everything. -/
theorem IsFlat.exists_every (h : p.IsFlat) (hall : p ≠ .all) :
    ∀ q ∈ p.branches, ∃ filters, q = .every filters := by
  cases h with
  | all => exact absurd rfl hall
  | nothing => simp [branches]
  | every filters => simp [branches]
  | either ps _ hps => exact hps

/-- So are the branches of several ones. -/
theorem exists_every_of_mem_flatMap (h : ∀ p ∈ ps, p.IsFlat) (hall : .all ∉ ps) :
    ∀ q ∈ ps.flatMap branches, ∃ filters, q = .every filters := by
  intro q hq
  obtain ⟨p, hp, hmem⟩ := List.mem_flatMap.1 hq
  have hne : p ≠ .all := by
    intro heq
    exact hall (heq ▸ hp)
  exact (h p hp).exists_every hne q hmem

/-- A disjunction of conjunctions is in short form, and it is not everything. -/
theorem isFlat_ofBranches (h : ∀ p ∈ ps, ∃ filters, p = .every filters) :
    (ofBranches ps).IsFlat ∧ ofBranches ps ≠ .all := by
  match ps with
  | [] => exact ⟨.nothing, nofun⟩
  | [p] =>
    obtain ⟨filters, rfl⟩ := h p List.mem_cons_self
    exact ⟨.every filters, nofun⟩
  | p :: q :: rest => exact ⟨.either _ (by simp) h, nofun⟩

/-- **The branches of a disjunction** are those of its parts. -/
theorem branches_anyOf (h : ∀ p ∈ ps, p.IsFlat) (hall : .all ∉ ps) :
    (anyOf ps).branches = ps.flatMap branches := by
  rw [anyOf_of_notMem hall]
  refine branches_ofBranches_of_forall fun q hq => ?_
  obtain ⟨filters, rfl⟩ := exists_every_of_mem_flatMap h hall q hq
  rfl

/-! ## Disjunctions of predicates in short form -/

/-- **A disjunction is in short form** if its parts are. -/
theorem isFlat_anyOf (h : ∀ p ∈ ps, p.IsFlat) : (anyOf ps).IsFlat := by
  by_cases hall : .all ∈ ps
  · rw [anyOf_eq_all hall]
    exact .all
  · rw [anyOf_of_notMem hall]
    exact (isFlat_ofBranches (exists_every_of_mem_flatMap h hall)).1

theorem anyOf_ne_all (h : ∀ p ∈ ps, p.IsFlat) (hall : .all ∉ ps) : anyOf ps ≠ .all := by
  rw [anyOf_of_notMem hall]
  exact (isFlat_ofBranches (exists_every_of_mem_flatMap h hall)).2

/-- **A predicate in short form** is the disjunction of itself alone. -/
theorem anyOf_singleton (h : p.IsFlat) : anyOf [p] = p := by
  cases h with
  | all => rfl
  | nothing => rfl
  | every filters => rfl
  | either ps hlength hps =>
    match ps, hlength with
    | p :: q :: rest, _ => simp [anyOf, isAll, branches, ofBranches]

/-- **The grouping of the parts does not matter.** -/
theorem anyOf_append (hp : ∀ p ∈ ps, p.IsFlat) (hq : ∀ q ∈ qs, q.IsFlat) :
    anyOf (ps ++ qs) = anyOf [anyOf ps, anyOf qs] := by
  by_cases hps : .all ∈ ps
  · rw [anyOf_eq_all (List.mem_append_left qs hps), anyOf_eq_all hps,
      anyOf_eq_all List.mem_cons_self]
  by_cases hqs : .all ∈ qs
  · rw [anyOf_eq_all (List.mem_append_right ps hqs), anyOf_eq_all hqs,
      anyOf_eq_all (List.mem_cons_of_mem _ List.mem_cons_self)]
  · have hparts : .all ∉ ps ++ qs := by simp [hps, hqs]
    have hgroups : .all ∉ [anyOf ps, anyOf qs] := by
      simp [(anyOf_ne_all hp hps).symm, (anyOf_ne_all hq hqs).symm]
    rw [anyOf_of_notMem hparts, anyOf_of_notMem hgroups]
    simp [branches_anyOf hp hps, branches_anyOf hq hqs]

/-! ## Addition -/

/-- A predicate in short form. -/
@[ext]
structure Flat where
  /-- The predicate. -/
  predicate : Predicate
  /-- It is in short form. -/
  isFlat : predicate.IsFlat

namespace Flat

theorem isFlat_of_mem_map (ps : List Flat) : ∀ p ∈ ps.map predicate, p.IsFlat := by
  intro p hp
  obtain ⟨q, -, rfl⟩ := List.mem_map.1 hp
  exact q.isFlat

/-- The disjunction of predicates in short form. -/
def disjunction (ps : List Flat) : Flat :=
  ⟨anyOf (ps.map predicate), isFlat_anyOf (isFlat_of_mem_map ps)⟩

instance : Add Flat := ⟨fun p q => disjunction [p, q]⟩
instance : Zero Flat := ⟨.nothing, .nothing⟩

theorem disjunction_singleton (p : Flat) : disjunction [p] = p :=
  Flat.ext (anyOf_singleton p.isFlat)

theorem disjunction_append (ps qs : List Flat) :
    disjunction (ps ++ qs) = disjunction ps + disjunction qs := by
  refine Flat.ext ?_
  have hgroups := anyOf_append (isFlat_of_mem_map ps) (isFlat_of_mem_map qs)
  rw [← List.map_append] at hgroups
  exact hgroups

/-- **Disjunction is an addition**: it is associative, and nothing is its zero. -/
instance : AddMonoid Flat where
  add_assoc p q r := by
    have hleft := disjunction_append [p, q] [r]
    have hright := disjunction_append [p] [q, r]
    rw [disjunction_singleton] at hleft hright
    exact hleft.symm.trans hright
  zero_add p := by
    have hnil := disjunction_append [] [p]
    rw [List.nil_append, disjunction_singleton] at hnil
    exact hnil.symm
  add_zero p := by
    have hnil := disjunction_append [p] []
    rw [List.append_nil, disjunction_singleton] at hnil
    exact hnil.symm
  nsmul := nsmulRec

/-- **A disjunction is the sum of its parts.** -/
theorem disjunction_eq_sum (ps : List Flat) : disjunction ps = ps.sum := by
  induction ps with
  | nil => rfl
  | cons p rest ih =>
    rw [List.sum_cons, ← ih, ← List.singleton_append, disjunction_append, disjunction_singleton]

end Flat

/-- **Disjunctions add up.** Whatever predicates a list holds, their disjunction selects what one
of them selects; nothing among them can be left out wherever it stands, and everything among them
makes it everything. The disjunction of predicates in short form is in short form, one of them
alone is left as it is, and a list can be put together in groups. So disjunction makes the
predicates in short form a monoid, and the disjunction of a list is its sum. -/
theorem anyOf_adds_up :
    (∀ (ps : List Predicate) (record : Record),
      (anyOf ps).selects record = true ↔ ∃ p ∈ ps, p.selects record = true) ∧
    (∀ ps : List Predicate, (∀ p ∈ ps, p.IsFlat) → (anyOf ps).IsFlat) ∧
    (∀ p : Predicate, p.IsFlat → anyOf [p] = p) ∧
    (∀ ps qs : List Predicate, anyOf (ps ++ .nothing :: qs) = anyOf (ps ++ qs)) ∧
    (∀ ps : List Predicate, .all ∈ ps → anyOf ps = .all) ∧
    (∀ ps qs : List Predicate, (∀ p ∈ ps, p.IsFlat) → (∀ q ∈ qs, q.IsFlat) →
      anyOf (ps ++ qs) = anyOf [anyOf ps, anyOf qs]) ∧
    ∀ ps : List Flat, anyOf (ps.map Flat.predicate) = ps.sum.predicate := by
  refine ⟨?_, ?_, ?_, anyOf_append_nothing, ?_, ?_, ?_⟩
  · intro ps record
    rw [selects_anyOf, List.any_eq_true]
  · intro ps h
    exact isFlat_anyOf h
  · intro p h
    exact anyOf_singleton h
  · intro ps h
    exact anyOf_eq_all h
  · intro ps qs hp hq
    exact anyOf_append hp hq
  · intro ps
    exact congrArg Flat.predicate (Flat.disjunction_eq_sum ps)

/-- The orders in a given state. -/
def ordersWith (status : String) : Predicate :=
  .every (.ofList [("status", ⟨.eq, .string status⟩)])

/-- The orders that are open or paid. -/
def pendingOrders : Predicate := .either [ordersWith "open", ordersWith "paid"]

theorem isFlat_pendingOrders : pendingOrders.IsFlat := by
  refine .either _ (by simp) fun p hp => ?_
  simp only [List.mem_cons, List.not_mem_nil, or_false] at hp
  rcases hp with rfl | rfl <;> exact ⟨_, rfl⟩

/-- New orders and pending ones are put together to one disjunction of three branches, also if
nothing is added to each group; with everything added they are everything. -/
theorem anyOf_ordersWith :
    anyOf [pendingOrders] = pendingOrders ∧
    anyOf [.nothing, ordersWith "new", pendingOrders]
      = .either [ordersWith "new", ordersWith "open", ordersWith "paid"] ∧
    anyOf [anyOf [.nothing, ordersWith "new"], anyOf [pendingOrders]]
      = .either [ordersWith "new", ordersWith "open", ordersWith "paid"] ∧
    (anyOf [.nothing, ordersWith "new", pendingOrders]).IsFlat ∧
    anyOf [ordersWith "new", .all, pendingOrders] = .all := by
  obtain ⟨-, hflat, hsingle, -, hall, hgroups, -⟩ := anyOf_adds_up
  have hnew : ∀ p ∈ [.nothing, ordersWith "new"], p.IsFlat := by
    simp only [List.forall_mem_cons]
    exact ⟨.nothing, .every _, nofun⟩
  have hpending : ∀ p ∈ [pendingOrders], p.IsFlat := by
    simpa using isFlat_pendingOrders
  have hparts : ∀ p ∈ [.nothing, ordersWith "new"] ++ [pendingOrders], p.IsFlat := by
    intro p hp
    exact (List.mem_append.1 hp).elim (hnew p) (hpending p)
  have hsum := hgroups _ _ hnew hpending
  refine ⟨hsingle _ isFlat_pendingOrders, rfl, hsum.symm, hflat _ hparts, hall _ ?_⟩
  simp

end Predicate

end AccessPolicy
