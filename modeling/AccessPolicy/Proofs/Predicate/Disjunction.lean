import AccessPolicy.Request

/-!
# The predicate of a request as a disjunction

A request builds its predicate in several steps that stop early: it selects everything for a
superuser and as soon as one permission has no conditions, and nothing if no permission counts.
These steps only save work. The predicate is the disjunction of the predicates of the permissions
that count, and what is to be said about it follows from what is said about a disjunction.

## Main statements

* `Predicate.anyOf_append_nothing` — what selects nothing can be left out of a disjunction.
* `Predicate.ofConditions_eq_all_iff` — only absent and empty conditions select everything.
* `Request.predicate_eq_anyOf` — the predicate of a request is a disjunction over its permissions.
-/
namespace AccessPolicy

namespace Predicate

theorem isAll_iff {p : Predicate} : p.isAll = true ↔ p = .all := by
  cases p <;> simp [isAll]

/-- **What selects nothing can be left out** of a disjunction, wherever it stands. -/
theorem anyOf_append_nothing (ps qs : List Predicate) :
    anyOf (ps ++ .nothing :: qs) = anyOf (ps ++ qs) := by
  simp [anyOf, isAll, branches]

/-- A disjunction that has everything as one of its parts is everything. -/
theorem anyOf_eq_all {ps : List Predicate} (h : .all ∈ ps) : anyOf ps = .all := by
  rw [anyOf, if_pos (List.any_eq_true.2 ⟨.all, h, rfl⟩)]

/-- Otherwise it is made of the branches of its parts. -/
theorem anyOf_of_notMem {ps : List Predicate} (h : .all ∉ ps) :
    anyOf ps = ofBranches (ps.flatMap branches) := by
  rw [anyOf, if_neg]
  intro hany
  obtain ⟨p, hp, hall⟩ := List.any_eq_true.1 hany
  rw [isAll_iff] at hall
  exact h (hall ▸ hp)

/-- Branches that stand for themselves can be read off their disjunction. -/
theorem branches_ofBranches_of_forall {ps : List Predicate} (h : ∀ p ∈ ps, p.branches = [p]) :
    (ofBranches ps).branches = ps := by
  match ps with
  | [] => rfl
  | [p] => exact h p List.mem_cons_self
  | _ :: _ :: _ => rfl

/-- **Only absent and empty conditions** select everything, in every context. -/
theorem ofConditions_eq_all_iff {p : Permission} {context : Json} :
    ofConditions p.conditions context = .all ↔ p.isUnconditional = true := by
  rw [Permission.isUnconditional]
  cases p.conditions with
  | none => simp [ofConditions]
  | some cs =>
    rw [ofConditions, Option.all_some]
    by_cases hempty : cs.isEmpty = true
    · simp [hempty]
    · rw [if_neg hempty]
      cases cs.mapM? (filter? context) <;> simp [hempty]

end Predicate

/-- **The predicate of a request** is the disjunction of the predicates of its permissions. -/
theorem Request.predicate_eq_anyOf (r : Request) :
    r.predicate =
      .anyOf (r.permissions.map fun p => Predicate.ofConditions p.conditions r.context) := by
  rw [predicate]
  by_cases hsuper : r.principal.isSuperuser = true
  · -- The only permission of a superuser has no conditions.
    simp only [permissions, hsuper, if_true]
    rfl
  · rw [if_neg hsuper]
    by_cases hnone : r.permissions = []
    · rw [if_pos (by simpa using hnone), hnone]
      rfl
    · rw [if_neg (by simpa using hnone)]
      by_cases hfree : r.permissions.any (·.isUnconditional) = true
      · obtain ⟨p, hp, hun⟩ := List.any_eq_true.1 hfree
        rw [if_pos hfree, Predicate.anyOf_eq_all]
        exact List.mem_map.2 ⟨p, hp, Predicate.ofConditions_eq_all_iff.2 hun⟩
      · rw [if_neg hfree]

end AccessPolicy
