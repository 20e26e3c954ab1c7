import AccessPolicy.Proofs.ValueOrder

/-!
# Bounds that nest

A permission may ask for values above or below a bound. One expects of a tighter bound that it
admits no more: what is above the greater of two bounds is above the less one, and what is below
the less one is below the greater. This is a law of the order of the three values, and it holds of
numbers and of texts as long as one order is used throughout. It fails for three texts exactly if
one of them is no time stamp and parts the other two, which are.

## Main definitions

* `Comparison.BoundsNest` — of two bounds the tighter one admits no more.
* `Comparison.ArePartedTexts` — a value and two bounds are texts, one of which parts the others.

## Main statements

* `Comparison.boundsNest_iff` — the law, in terms of the two comparisons with the value.
* `Comparison.boundsNest_iff_not_parted` — which bounds nest for which values.
-/
namespace AccessPolicy.Comparison

open Json

/-- Of two bounds, `a` not greater than `b`, the tighter one does not admit a field value that the
other one refuses. -/
structure BoundsNest (value : Option Json) (a b : Json) : Prop where
  /-- What is above the greater bound is above the less one. -/
  gt : gt.holds value b = true → gt.holds value a = true
  /-- What is not below the greater bound is not below the less one. -/
  gte : gte.holds value b = true → gte.holds value a = true
  /-- What is below the less bound is below the greater one. -/
  lt : lt.holds value a = true → lt.holds value b = true
  /-- What is not above the less bound is not above the greater one. -/
  lte : lte.holds value a = true → lte.holds value b = true

/-- The field value and the two bounds are texts, and one of the three parts the other two. -/
def ArePartedTexts : Option Json → Json → Json → Prop
  | some (.string s), .string a, .string b => IsParted s a b
  | _, _, _ => False

variable {v a b : Json}

/-! ## Comparisons with the value -/

/-- Lower and upper bounds ask for the same: the four laws say that the value stays less, and that
it stays not greater, when the bound grows. -/
theorem boundsNest_iff {o o' : Ordering} (ha : v.compare? a = some o)
    (hb : v.compare? b = some o') :
    BoundsNest (some v) a b ↔ (o = .lt → o' = .lt) ∧ (o.isLE → o'.isLE) := by
  constructor
  · intro h
    have hlt := h.lt
    have hlte := h.lte
    simp only [holds, ordered, Option.bind_some, ha, hb, Option.any_some] at hlt hlte
    cases o <;> cases o' <;> simp_all
  · intro h
    constructor
    all_goals
      simp only [holds, ordered, Option.bind_some, ha, hb, Option.any_some]
      cases o <;> cases o' <;> simp_all

/-- A value that is not ordered against the bounds is admitted by none of them. -/
theorem boundsNest_of_eq_none {value : Option Json} (ha : value.bind (·.compare? a) = none)
    (hb : value.bind (·.compare? b) = none) : BoundsNest value a b := by
  constructor
  all_goals
    intro h
    simp [holds, ordered, ha, hb] at h

/-- In an order bounds nest. -/
theorem lt_and_isLE_of_isLE {α : Type} {cmp : α → α → Ordering} [Std.TransCmp cmp] {x y z : α}
    (h : (cmp y z).isLE) : (cmp x y = .lt → cmp x z = .lt) ∧ ((cmp x y).isLE → (cmp x z).isLE) :=
  ⟨fun hlt => Std.TransCmp.lt_of_lt_of_isLE hlt h, fun hle => Std.TransCmp.isLE_trans hle h⟩

/-! ## Texts -/

/-- **Texts nest as bounds** unless one of the three texts parts the other two. -/
theorem boundsNest_string_iff {s x y : String} (hxy : (compareTexts x y).isLE) :
    BoundsNest (some (.string s)) (.string x) (.string y) ↔ ¬ IsParted s x y := by
  rw [boundsNest_iff (v := .string s) (a := .string x) (b := .string y) rfl rfl]
  constructor
  · rintro ⟨hlt, hle⟩ hparted
    obtain h | h | h := hparted
    all_goals obtain ⟨hbelow, hstamps, habove⟩ := h.circle
    · -- The value parts the bounds, so it is less than the first and greater than the second.
      exact Std.OrientedCmp.not_lt_of_lt habove (hlt hbelow)
    · -- The second bound parts the value from the first.
      exact Std.OrientedCmp.not_isLE_of_lt hbelow (hle hstamps)
    · -- The first bound parts the second from the value.
      exact Std.OrientedCmp.not_lt_of_isLE hstamps (hlt habove)
  · intro hparted
    constructor
    · intro hlt
      by_contra hnot
      have hback : (compareTexts y s).isLE :=
        Std.OrientedCmp.isLE_of_isGE (Ordering.ne_lt_iff_isGE.1 hnot)
      exact hparted (isParted_of_circle (by simp [hlt]) hxy hback (.inl hlt))
    · intro hle
      by_contra hnot
      have hback : compareTexts y s = .lt := Std.OrientedCmp.lt_of_not_isLE hnot
      exact hparted (isParted_of_circle hle hxy (by simp [hback]) (.inr hback))

/-! ## All values -/

/-- **Which bounds nest.** Let the bound `a` be less than `b` or equal to it, so that both are
numbers or both are texts. What satisfies the tighter one of two bounds satisfies the other one,
for all values of a field, unless the value and the bounds are three texts of which one is no time
stamp and parts the other two: these are time stamps, the text stands between them, and the one
before it as a text is not before the other one as an instant. -/
theorem boundsNest_iff_not_parted (value : Option Json) {a b : Json}
    (h : a.compare? b = some .lt ∨ a.compare? b = some .eq) :
    BoundsNest value a b ↔ ¬ ArePartedTexts value a b := by
  obtain ⟨o, ho, hle⟩ : ∃ o, a.compare? b = some o ∧ o.isLE := by
    rcases h with h | h <;> exact ⟨_, h, rfl⟩
  rcases cases_of_compare? ho with ⟨m, n, rfl, rfl, rfl⟩ | ⟨x, y, rfl, rfl, rfl⟩
  · -- Numbers have an order, and no value of another kind is ordered against them.
    refine iff_of_true ?_ (by cases value <;> simp [ArePartedTexts])
    rcases value with _ | ⟨_ | _ | k | _ | _ | _⟩
    case some.number =>
      have horder := lt_and_isLE_of_isLE (x := k.value) hle
      exact (boundsNest_iff (v := .number k) rfl rfl).2 horder
    all_goals exact boundsNest_of_eq_none rfl rfl
  · rcases value with _ | ⟨_ | _ | _ | s | _ | _⟩
    case some.string => exact boundsNest_string_iff hle
    all_goals exact iff_of_true (boundsNest_of_eq_none rfl rfl) (fun hparted => hparted)

/-! ### A local time between two departures -/

/-- A departure at eight, by a clock without offset. -/
def firstDeparture : Json := .string "2024-03-01T08:00:00Z"

/-- The same departure, by a clock that is two hours ahead. -/
def firstDepartureAbroad : Json := .string "2024-03-01T10:00:00+02:00"

/-- A departure at nine, by a clock without offset. -/
def secondDeparture : Json := .string "2024-03-01T09:00:00Z"

/-- Half past nine, by nobody knows which clock: this is no time stamp. -/
def localTime : Json := .string "2024-03-01T09:30"

/-- By one clock the departures nest as bounds for the local time, which is after both of them. -/
theorem boundsNest_localTime :
    firstDeparture.compare? secondDeparture = some .lt ∧
      BoundsNest (some localTime) firstDeparture secondDeparture := by
  have hless : firstDeparture.compare? secondDeparture = some .lt := by decide +kernel
  refine ⟨hless, (boundsNest_iff_not_parted _ (.inl hless)).2 ?_⟩
  have hfirst : Instant.parse? "2024-03-01T08:00:00Z" ≠ none := by decide +kernel
  have hsecond : Instant.parse? "2024-03-01T09:00:00Z" ≠ none := by decide +kernel
  have horder : ¬ "2024-03-01T09:30" < "2024-03-01T08:00:00Z" := by decide +kernel
  rintro (h | h | h)
  · exact horder h.below
  · exact hsecond h.plain
  · exact hfirst h.plain

/-- **A bound that is less but admits less**: by two clocks the first departure is still before the
second one, and the local time is after the second one, but it is not after the first one. -/
theorem bounds_cross_localTime :
    firstDepartureAbroad.compare? secondDeparture = some .lt ∧
      gt.holds (some localTime) secondDeparture = true ∧
      gt.holds (some localTime) firstDepartureAbroad = false := by
  decide +kernel

end AccessPolicy.Comparison
