import AccessPolicy.Proofs.Json.Equality
import AccessPolicy.Proofs.Predicate.Agreement
import AccessPolicy.Proofs.ValueOrder

/-!
# The table of comparisons is coherent

The comparisons of the table are made from one equality and one order of values, so they fit
together. The order can be read from both sides, and of a pair that is ordered one of greater, less
and neither holds. Equality is an equivalence. A pair of comparisons that negate each other decides
every field value, also an absent one, as soon as the operand of the condition resolves; if it
leads nowhere both deny.

What holds is counted here: a count of one among comparisons that exclude each other says that
exactly one of them holds.

## Main definitions

* `Json.isOrderedWith` — two values are both numbers or both texts.
* `Comparison.Mirrors` — the order of two values, read from both sides.
* `Comparison.Orders` — what the orderings say of a field value and an expected value.
* `Condition.Decides` — what conditions that negate each other say of a field value.

## Main statements

* `Comparison.mirrors`, `Comparison.orders`, `Condition.decides` — each of these holds throughout.
* `Comparison.table_coherent` — all of it, and that equality fits to the order.
-/
namespace AccessPolicy

/-- Whether two values are both numbers or both texts. -/
def Json.isOrderedWith : Json → Json → Bool
  | number _, number _ => true
  | string _, string _ => true
  | _, _ => false

namespace Comparison

open Json

/-- The order of two values can be read from both sides. -/
structure Mirrors (a b : Json) : Prop where
  /-- The values are ordered if they are both numbers or both texts. -/
  isSome : (a.compare? b).isSome = a.isOrderedWith b
  /-- From the other side the order is turned around. -/
  swap : a.compare? b = (b.compare? a).map .swap
  /-- The one is greater if the other is less. -/
  gt : gt.holds (some a) b = lt.holds (some b) a
  /-- The one is not less if the other is not greater. -/
  gte : gte.holds (some a) b = lte.holds (some b) a

/-- What the four orderings say of the value of a field and an expected value. -/
structure Orders (value : Option Json) (b : Json) : Prop where
  /-- One of them holds if there is a value and it is ordered with the expected one. -/
  any : [Comparison.gt, .lt, .gte, .lte].any (·.holds value b) = value.any (·.isOrderedWith b)
  /-- Then exactly one of greater, less and neither holds. -/
  count : [gt.holds value b, lt.holds value b, gte.holds value b && lte.holds value b].count true =
    (value.any (·.isOrderedWith b)).toNat
  /-- A value that is ordered is not less or less. -/
  gte : gte.holds value b = (value.any (·.isOrderedWith b) && !lt.holds value b)
  /-- A value that is ordered is not greater or greater. -/
  lte : lte.holds value b = (value.any (·.isOrderedWith b) && !gt.holds value b)

/-! ## Order -/

theorem isSome_compare? (a b : Json) : (a.compare? b).isSome = a.isOrderedWith b := by
  cases a <;> cases b <;> rfl

/-- A value accepted from one side is accepted, turned around, from the other side. -/
theorem ordered_swap (a b : Json) (accept : Ordering → Bool) :
    ordered (some a) b accept = ordered (some b) a (accept ·.swap) := by
  simp only [ordered, Option.bind_some]
  rw [compare?_swap a b, Option.any_map]

theorem mirrors (a b : Json) : Mirrors a b where
  isSome := isSome_compare? a b
  swap := compare?_swap a b
  gt := by
    rw [holds, holds, ordered_swap]
    congr 1
    funext o
    cases o <;> rfl
  gte := by
    rw [holds, holds, ordered_swap]
    congr 1
    funext o
    cases o <;> rfl

/-- **What the orderings say** depends on the order only, and there are four cases of that. -/
theorem orders (value : Option Json) (b : Json) : Orders value b := by
  have hordered : value.any (·.isOrderedWith b) = (value.bind (·.compare? b)).isSome := by
    cases value with
    | none => rfl
    | some a => exact (isSome_compare? a b).symm
  constructor
  all_goals
    simp only [hordered, holds, ordered, List.any_cons, List.any_nil]
    cases value.bind (·.compare? b) with
    | none => rfl
    | some o => cases o <;> rfl

/-! ## Equality and order -/

/-- Two numbers are equal if neither is less. -/
theorem eq_number (m n : Number) : eq.holds (some (.number m)) (.number n) =
    (gte.holds (some (.number m)) (.number n) && lte.holds (some (.number m)) (.number n)) := by
  have hequals : eq.holds (some (.number m)) (.number n) = decide (m.value = n.value) := rfl
  have hordered : ∀ accept, ordered (some (.number m)) (.number n) accept =
      accept (compare m.value n.value) := fun _ => rfl
  simp only [holds] at hequals ⊢
  rw [hequals, hordered, hordered]
  rcases Int.lt_trichotomy m.value n.value with hlt | heq | hgt
  · simp [Int.compare_eq_lt.2 hlt, Int.ne_of_lt hlt]
  · simp [heq]
  · simp [Int.compare_eq_gt.2 hgt, Int.ne_of_gt hgt]

/-- A text is neither less nor greater than itself. -/
theorem gte_lte_string (s : String) :
    (gte.holds (some (.string s)) (.string s) && lte.holds (some (.string s)) (.string s)) =
      true := by
  have hordered : ∀ accept, ordered (some (.string s)) (.string s) accept = accept .eq := by
    intro accept
    have hself : compareTexts s s = .eq := Std.ReflCmp.compare_self
    simp [ordered, compare?, hself]
  simp [holds, hordered]

end Comparison

/-! ## Conditions -/

namespace Condition

/-- What two conditions that negate each other say of the value of a field: if the operand
resolves, exactly one of them accepts it, and if the operand leads nowhere, neither does. -/
structure Decides (operand : Operand) (context : Json) (value : Option Json) : Prop where
  /-- Equality and its negation. -/
  eq_ne : [Comparison.eq, .ne].countP (accepts ⟨.known ·, operand⟩ context value) =
    (operand.resolve context).isSome.toNat
  /-- Membership and its negation. -/
  oneOf_noneOf : [Comparison.oneOf, .noneOf].countP (accepts ⟨.known ·, operand⟩ context value) =
    (operand.resolve context).isSome.toNat

/-- Of two comparisons of which one holds if the other does not, conditions with a resolved operand
accept by exactly one. -/
theorem countP_accepts {c c' : Comparison} (operand : Operand) (context : Json)
    (value : Option Json) (h : ∀ expected, c'.holds value expected = !c.holds value expected) :
    [c, c'].countP (accepts ⟨.known ·, operand⟩ context value) =
      (operand.resolve context).isSome.toNat := by
  have haccepts : ∀ d : Comparison, accepts ⟨.known d, operand⟩ context value =
      (operand.resolve context).any (d.holds value) := fun d => accepts_eq_any _ _ _
  simp only [List.countP_cons, List.countP_nil, haccepts]
  cases operand.resolve context with
  | none => rfl
  | some expected =>
    by_cases hholds : c.holds value expected = true
    · simp [h, hholds]
    · simp [h, hholds]

theorem decides (operand : Operand) (context : Json) (value : Option Json) :
    Decides operand context value where
  eq_ne := countP_accepts operand context value fun _ => rfl
  oneOf_noneOf := countP_accepts operand context value fun _ => rfl

end Condition

/-! ## The whole table -/

/-- **The table of comparisons is coherent.** The order of two values is defined for two numbers
and for two texts and is the same from both sides; of greater, less and neither exactly one holds
of an ordered pair, and none holds of a pair that is not ordered or of an absent value. Equality is
an equivalence; two numbers are equal if neither is less, and equal texts are not ordered either
way. And of two conditions that negate each other exactly one accepts a field value, if the operand
resolves, and neither does, if it leads nowhere. -/
theorem Comparison.table_coherent :
    (∀ a b : Json, Mirrors a b) ∧
    (∀ (value : Option Json) (b : Json), Orders value b) ∧
    Equivalence (fun a b : Json => eq.holds (some a) b = true) ∧
    (∀ m n : Number, eq.holds (some (.number m)) (.number n) =
      (gte.holds (some (.number m)) (.number n) && lte.holds (some (.number m)) (.number n))) ∧
    (∀ s : String, (gte.holds (some (.string s)) (.string s) &&
      lte.holds (some (.string s)) (.string s)) = true) ∧
    ∀ (operand : Operand) (context : Json) (value : Option Json),
      Condition.Decides operand context value := by
  have hequals : ∀ a b : Json, eq.holds (some a) b = a.equal b := fun _ _ => rfl
  refine ⟨mirrors, orders, ?_, eq_number, gte_lte_string, Condition.decides⟩
  simp only [hequals]
  exact Json.equivalence_equal

/-- Two spellings of one instant are neither less nor greater, but they are not equal: only numbers
are equal as soon as neither is less. -/
example : Comparison.eq.holds (some (.string "2024-03-01T10:00:00+02:00"))
      (.string "2024-03-01T08:00:00Z") = false ∧
    Comparison.gte.holds (some (.string "2024-03-01T10:00:00+02:00"))
      (.string "2024-03-01T08:00:00Z") = true ∧
    Comparison.lte.holds (some (.string "2024-03-01T10:00:00+02:00"))
      (.string "2024-03-01T08:00:00Z") = true := by
  decide +kernel

end AccessPolicy
