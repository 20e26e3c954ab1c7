import AccessPolicy.Comparison
import Mathlib.Order.Defs.LinearOrder

/-!
# The order of values

Numbers are ordered after rounding, two time stamps as instants, and any other two texts character
by character. Each of these orders is total. The two orders of texts, taken together, are total
too, in the sense that of two texts the one or the other comes first, but they are no order: a
text that is no time stamp may stand, as a text, between two stamps of which the one that is the
later text is the earlier instant. Then the three texts follow each other in a circle. This is the
only way in which a circle comes about.

## Main definitions

* `Json.Parts` — a text stands between two time stamps that the two orders turn around.
* `Json.IsParted` — one of three texts, in the order of a circle, parts the other two.

## Main statements

* `Json.compare?_swap` — of two values the one is less if the other is greater.
* `Json.isParted_of_circle`, `Json.Parts.circle` — circles come about by parted stamps only.
-/
namespace AccessPolicy

/-! ## Instants -/

/-- Instants are ordered by their seconds first and by their nanoseconds then, which is an
order. -/
instance : Std.TransCmp Instant.compare :=
  inferInstanceAs
    (Std.TransCmp (compareLex (compareOn Instant.seconds) (compareOn Instant.nanos)))

namespace Json

variable {s x y a b : String}

/-! ## Two texts -/

theorem compareTexts_stamps {i j : Instant} (ha : Instant.parse? a = some i)
    (hb : Instant.parse? b = some j) : compareTexts a b = i.compare j := by
  simp only [compareTexts, ha, hb]

/-- A text that is no time stamp is compared character by character. -/
theorem compareTexts_plain (h : Instant.parse? a = none ∨ Instant.parse? b = none) :
    compareTexts a b = compare a b := by
  rcases h with ha | hb
  · simp only [compareTexts, ha]
    rfl
  · cases ha : Instant.parse? a <;> simp only [compareTexts, ha, hb] <;> rfl

/-- **Of two texts the one is less if the other is greater**, in whatever order they stand. -/
theorem compareTexts_swap (a b : String) : compareTexts a b = (compareTexts b a).swap := by
  by_cases hplain : Instant.parse? a = none ∨ Instant.parse? b = none
  · rw [compareTexts_plain hplain, compareTexts_plain hplain.symm]
    exact Std.OrientedCmp.eq_swap
  · obtain ⟨ha, hb⟩ := not_or.1 hplain
    obtain ⟨i, hi⟩ := Option.ne_none_iff_exists'.1 ha
    obtain ⟨j, hj⟩ := Option.ne_none_iff_exists'.1 hb
    rw [compareTexts_stamps hi hj, compareTexts_stamps hj hi]
    exact Std.OrientedCmp.eq_swap

instance : Std.OrientedCmp compareTexts where
  eq_swap := compareTexts_swap _ _

/-! ## Three texts -/

/-- A text that is no time stamp stands between two time stamps `x` and `y`, of which `x` is not
after `y` as an instant, but is as a text. -/
structure Parts (s x y : String) : Prop where
  /-- The text is no time stamp. -/
  plain : Instant.parse? s = none
  /-- The stamps in their order as instants. -/
  stamps : ∃ i j, Instant.parse? x = some i ∧ Instant.parse? y = some j ∧ (i.compare j).isLE
  /-- As a text, the second stamp stands before the text … -/
  above : y < s
  /-- … and the first one after it. -/
  below : s < x

/-- One of three texts, taken in the order of the circle, parts the other two. -/
def IsParted (s a b : String) : Prop := Parts s a b ∨ Parts b s a ∨ Parts a b s

theorem lt_of_isLE_of_ne (h : (compare a b).isLE) (hne : a ≠ b) : a < b := by
  cases hcompare : compare a b with
  | lt => exact compareOfLessAndEq_eq_lt.1 hcompare
  | eq => exact absurd (Std.LawfulEqCmp.eq_of_compare hcompare) hne
  | gt => simp [hcompare] at h

/-- Two stamps and another text that follow each other in a circle: the other text parts the
stamps. It is different from both, so it does not matter that the circle is not strict. -/
theorem parts_of_circle {i j : Instant} (hs : Instant.parse? s = none)
    (ha : Instant.parse? a = some i) (hb : Instant.parse? b = some j)
    (hsa : (compareTexts s a).isLE) (hab : (compareTexts a b).isLE)
    (hbs : (compareTexts b s).isLE) : Parts s a b := by
  rw [compareTexts_plain (.inl hs)] at hsa
  rw [compareTexts_stamps ha hb] at hab
  rw [compareTexts_plain (.inr hs)] at hbs
  have hbne : b ≠ s := by
    rintro rfl
    simp [hs] at hb
  have hane : s ≠ a := by
    rintro rfl
    simp [hs] at ha
  exact ⟨hs, ⟨i, j, ha, hb, hab⟩, lt_of_isLE_of_ne hbs hbne, lt_of_isLE_of_ne hsa hane⟩

/-- In an order there is no circle, unless nothing in it is less than the next. -/
theorem not_lt_of_circle {α : Type} {cmp : α → α → Ordering} [Std.TransCmp cmp] {u v w : α}
    (huv : (cmp u v).isLE) (hvw : (cmp v w).isLE) (hwu : (cmp w u).isLE) :
    ¬ (cmp u v = .lt ∨ cmp w u = .lt) := by
  have hvu : (cmp v u).isLE := Std.TransCmp.isLE_trans hvw hwu
  have huw : (cmp u w).isLE := Std.TransCmp.isLE_trans huv hvw
  rw [Std.OrientedCmp.isLE_antisymm huv hvu, Std.OrientedCmp.isLE_antisymm hwu huw]
  decide

/-- Nor is there one where every comparison is character by character. -/
theorem not_lt_of_circle_of_plain (hs : Instant.parse? s = none ∨ Instant.parse? a = none)
    (ha : Instant.parse? a = none ∨ Instant.parse? b = none)
    (hb : Instant.parse? b = none ∨ Instant.parse? s = none) (hsa : (compareTexts s a).isLE)
    (hab : (compareTexts a b).isLE) (hbs : (compareTexts b s).isLE) :
    ¬ (compareTexts s a = .lt ∨ compareTexts b s = .lt) := by
  rw [compareTexts_plain hs] at hsa ⊢
  rw [compareTexts_plain ha] at hab
  rw [compareTexts_plain hb] at hbs ⊢
  exact not_lt_of_circle hsa hab hbs

/-- **A circle of three texts** in which one is less than the next has two time stamps in it and a
text that parts them. -/
theorem isParted_of_circle (hsa : (compareTexts s a).isLE) (hab : (compareTexts a b).isLE)
    (hbs : (compareTexts b s).isLE) (hlt : compareTexts s a = .lt ∨ compareTexts b s = .lt) :
    IsParted s a b := by
  cases hs : Instant.parse? s with
  | none =>
    cases ha : Instant.parse? a with
    | none => exact absurd hlt (not_lt_of_circle_of_plain (.inl hs) (.inl ha) (.inr hs) hsa hab hbs)
    | some i =>
      cases hb : Instant.parse? b with
      | none =>
        exact absurd hlt (not_lt_of_circle_of_plain (.inl hs) (.inr hb) (.inl hb) hsa hab hbs)
      | some j => exact .inl (parts_of_circle hs ha hb hsa hab hbs)
  | some k =>
    cases ha : Instant.parse? a with
    | none =>
      cases hb : Instant.parse? b with
      | none =>
        exact absurd hlt (not_lt_of_circle_of_plain (.inr ha) (.inl ha) (.inl hb) hsa hab hbs)
      | some j => exact .inr (.inr (parts_of_circle ha hb hs hab hbs hsa))
    | some i =>
      cases hb : Instant.parse? b with
      | none => exact .inr (.inl (parts_of_circle hb hs ha hbs hsa hab))
      | some j =>
        rw [compareTexts_stamps hs ha] at hsa hlt
        rw [compareTexts_stamps ha hb] at hab
        rw [compareTexts_stamps hb hs] at hbs hlt
        exact absurd hlt (not_lt_of_circle hsa hab hbs)

/-- A text that parts two stamps follows the second one and is followed by the first one. -/
theorem Parts.circle (h : Parts s a b) :
    compareTexts s a = .lt ∧ (compareTexts a b).isLE ∧ compareTexts b s = .lt := by
  obtain ⟨i, j, hi, hj, hij⟩ := h.stamps
  refine ⟨?_, ?_, ?_⟩
  · rw [compareTexts_plain (.inl h.plain)]
    exact compareOfLessAndEq_eq_lt.2 h.below
  · rwa [compareTexts_stamps hi hj]
  · rw [compareTexts_plain (.inr h.plain)]
    exact compareOfLessAndEq_eq_lt.2 h.above

/-! ## All values -/

/-- Two values that are ordered are numbers or texts. -/
theorem cases_of_compare? {v w : Json} {o : Ordering} (h : v.compare? w = some o) :
    (∃ m n, v = .number m ∧ w = .number n ∧ compare m.value n.value = o) ∨
      ∃ x y, v = .string x ∧ w = .string y ∧ compareTexts x y = o := by
  cases v with
  | number m =>
    cases w with
    | number n => exact .inl ⟨m, n, rfl, rfl, Option.some.inj h⟩
    | _ => cases h
  | string x =>
    cases w with
    | string y => exact .inr ⟨x, y, rfl, rfl, Option.some.inj h⟩
    | _ => cases h
  | _ => cases h

/-- **Of two values the one is less if the other is greater**, and if they are not ordered this
way round, they are not ordered the other way round either. -/
theorem compare?_swap (v w : Json) : v.compare? w = (w.compare? v).map .swap := by
  cases v with
  | number m =>
    cases w with
    | number n =>
      have hswap : compare m.value n.value = (compare n.value m.value).swap :=
        Std.OrientedCmp.eq_swap
      exact congrArg some hswap
    | _ => rfl
  | string x =>
    cases w with
    | string y => exact congrArg some (compareTexts_swap x y)
    | _ => rfl
  | _ => cases w <;> rfl

end Json

end AccessPolicy
