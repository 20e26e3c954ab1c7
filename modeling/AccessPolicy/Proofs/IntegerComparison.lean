import AccessPolicy.Comparison
import AccessPolicy.Proofs.Number.Rounding

/-!
# Integers that cannot be told apart

Numbers are compared after rounding to binary64. For integers this is a comparison by value as long
as both fit into 53 binary digits. Beyond that, neighbours are rounded to the same number, and then
they are compared as if they were equal: one is found in a list that holds only the other. Rounding
never turns two integers around, so this is all that can go wrong.

So two integers are compared by their value exactly if they are not merged, and an integer is found
in a list by its value exactly if it is in it or is merged with nothing in it.

## Main definitions

* `Binary64.Merges` — two different integers are rounded to the same number.
* `Comparison.ComparesByValue`, `Comparison.ListsByValue` — what comparison by value asks for.

## Main statements

* `Comparison.compare?_of_not_merges` — integers that are not merged have their own order.
* `Comparison.comparesAsEqual_iff` — merged ones count as equal.
* `Comparison.comparesByValue_iff_not_merges` — which integers are compared by their value.
-/
namespace AccessPolicy

/-! ## Integers that are merged -/

/-- Two different integers are rounded to the same number. -/
def Binary64.Merges (a b : Int) : Prop := a ≠ b ∧ roundInt a = roundInt b

namespace Binary64

variable {a b : Int}

instance : Decidable (Merges a b) := inferInstanceAs (Decidable (_ ∧ _))

/-- Two integers are rounded to the same number if they are the same or are merged. -/
theorem roundInt_eq_iff : roundInt a = roundInt b ↔ a = b ∨ Merges a b := by
  by_cases h : a = b
  · simp [h]
  · simp [Merges, h]

/-- The smaller one of two integers that are not merged is rounded to the smaller number. -/
theorem roundInt_lt_iff (h : ¬ Merges a b) : roundInt a < roundInt b ↔ a < b := by
  have hround : roundInt a = roundInt b → a = b := by
    intro heq
    exact (roundInt_eq_iff.1 heq).resolve_right h
  constructor
  · intro hlt
    by_contra hle
    have hmono := roundInt_mono (Int.not_lt.1 hle)
    omega
  · intro hlt
    have hmono := roundInt_mono (Int.le_of_lt hlt)
    have hne : roundInt a ≠ roundInt b := fun heq => by
      have hsame := hround heq
      omega
    omega

/-- **Integers up to `2⁵³`** are not merged. -/
theorem not_merges_of_natAbs_le (ha : a.natAbs ≤ 2 ^ 53) (hb : b.natAbs ≤ 2 ^ 53) :
    ¬ Merges a b := by
  rintro ⟨hne, hround⟩
  rw [roundInt_eq_mul ha, roundInt_eq_mul hb] at hround
  have hunit : ((Nat.pow 2 1074 : Nat) : Int) ≠ 0 := by
    rw [Nat.pow_eq, Int.natCast_ne_zero]
    exact Nat.ne_of_gt (Nat.two_pow_pos 1074)
  exact hne (Int.eq_of_mul_eq_mul_right hunit hround)

end Binary64

/-! ## Comparisons -/

/-- The value that an integer is. -/
def Json.ofInt (n : Int) : Json := .number (.int n)

namespace Comparison

open Binary64

variable {a b : Int}

/-- Two integers, the first one as the value of a field, are compared by their value. -/
structure ComparesByValue (a b : Int) : Prop where
  /-- They are equal. -/
  eq : eq.holds (some (.ofInt a)) (.ofInt b) = true ↔ a = b
  /-- They are not equal. -/
  ne : ne.holds (some (.ofInt a)) (.ofInt b) = true ↔ a ≠ b
  /-- The first one is greater. -/
  gt : gt.holds (some (.ofInt a)) (.ofInt b) = true ↔ a > b
  /-- The first one is less. -/
  lt : lt.holds (some (.ofInt a)) (.ofInt b) = true ↔ a < b
  /-- The first one is not less. -/
  gte : gte.holds (some (.ofInt a)) (.ofInt b) = true ↔ a ≥ b
  /-- The first one is not greater. -/
  lte : lte.holds (some (.ofInt a)) (.ofInt b) = true ↔ a ≤ b

/-- Two integers are compared as if they were equal. -/
structure ComparesAsEqual (a b : Int) : Prop where
  /-- They count as equal. -/
  eq : eq.holds (some (.ofInt a)) (.ofInt b) = true
  /-- They do not count as different. -/
  ne : ne.holds (some (.ofInt a)) (.ofInt b) = false
  /-- The first one does not count as greater. -/
  gt : gt.holds (some (.ofInt a)) (.ofInt b) = false
  /-- The first one does not count as less. -/
  lt : lt.holds (some (.ofInt a)) (.ofInt b) = false
  /-- The first one counts as not less. -/
  gte : gte.holds (some (.ofInt a)) (.ofInt b) = true
  /-- The first one counts as not greater. -/
  lte : lte.holds (some (.ofInt a)) (.ofInt b) = true

/-- An integer is looked up in a list of integers by its value. -/
structure ListsByValue (a : Int) (bs : List Int) : Prop where
  /-- It is in the list. -/
  oneOf : oneOf.holds (some (.ofInt a)) (.array (bs.map .ofInt)) = true ↔ a ∈ bs
  /-- It is not in the list. -/
  noneOf : noneOf.holds (some (.ofInt a)) (.array (bs.map .ofInt)) = true ↔ a ∉ bs

/-- Integers are equal if they are rounded to the same number. -/
theorem equal_ofInt : (Json.ofInt a).equal (.ofInt b) = true ↔ a = b ∨ Merges a b := by
  rw [← roundInt_eq_iff]
  exact decide_eq_true_iff

/-- Integers are ordered as they are rounded. -/
theorem compare?_ofInt :
    (Json.ofInt a).compare? (.ofInt b) = some (compareOfLessAndEq (roundInt a) (roundInt b)) :=
  rfl

/-- **Integers that are not merged** have their own order. -/
theorem compare?_of_not_merges (h : ¬ Merges a b) :
    (Json.ofInt a).compare? (.ofInt b) = some (compareOfLessAndEq a b) := by
  have hround : roundInt a = roundInt b ↔ a = b := by
    rw [roundInt_eq_iff, or_iff_left h]
  simp only [compare?_ofInt, compareOfLessAndEq, roundInt_lt_iff h, hround]

theorem comparesByValue_of_not_merges (h : ¬ Merges a b) : ComparesByValue a b := by
  have hequal : (Json.ofInt a).equal (.ofInt b) = true ↔ a = b := by
    rw [equal_ofInt, or_iff_left h]
  have hordered : ∀ accept, ordered (some (.ofInt a)) (.ofInt b) accept =
      accept (compareOfLessAndEq a b) := by
    intro accept
    simp [ordered, compare?_of_not_merges h]
  have horder : (a < b ∧ compareOfLessAndEq a b = .lt) ∨ (a = b ∧ compareOfLessAndEq a b = .eq) ∨
      (b < a ∧ compareOfLessAndEq a b = .gt) := by
    unfold compareOfLessAndEq
    split
    · exact .inl ⟨‹_›, rfl⟩
    · split
      · exact .inr (.inl ⟨‹_›, rfl⟩)
      · exact .inr (.inr ⟨by omega, rfl⟩)
  constructor
  case eq => simpa [holds, equals] using hequal
  case ne => simp [holds, equals, ← hequal]
  all_goals
    rw [holds, hordered]
    rcases horder with ⟨hlt, hcompare⟩ | ⟨heq, hcompare⟩ | ⟨hgt, hcompare⟩
    all_goals
      rw [hcompare]
      simp
      omega

/-- Merged integers are compared as if they were equal, and no others are, but for equal ones. -/
theorem comparesAsEqual_iff : ComparesAsEqual a b ↔ a = b ∨ Merges a b := by
  constructor
  · intro h
    exact equal_ofInt.1 (by simpa [holds, equals] using h.eq)
  · intro h
    have hequal : (Json.ofInt a).equal (.ofInt b) = true := equal_ofInt.2 h
    have hordered : ∀ accept, ordered (some (.ofInt a)) (.ofInt b) accept = accept .eq := by
      intro accept
      rw [ordered, Option.bind_some, compare?_ofInt, roundInt_eq_iff.2 h]
      simp [compareOfLessAndEq]
    constructor
    case eq => simpa [holds, equals] using hequal
    case ne => simpa [holds, equals] using hequal
    all_goals
      rw [holds, hordered]
      decide

/-- An integer is found in a list if it is there or is merged with something there. -/
theorem listed_ofInt (bs : List Int) :
    listed (some (.ofInt a)) (.array (bs.map .ofInt)) = true ↔ a ∈ bs ∨ ∃ b ∈ bs, Merges a b := by
  have hany : listed (some (.ofInt a)) (.array (bs.map .ofInt)) = true ↔
      ∃ b ∈ bs, a = b ∨ Merges a b := by
    simp [listed, Json.members, equal_ofInt]
  rw [hany]
  constructor
  · rintro ⟨b, hb, rfl | hmerges⟩
    · exact .inl hb
    · exact .inr ⟨b, hb, hmerges⟩
  · rintro (hmem | ⟨b, hb, hmerges⟩)
    · exact ⟨a, hmem, .inl rfl⟩
    · exact ⟨b, hb, .inr hmerges⟩

theorem listsByValue_iff {bs : List Int} :
    ListsByValue a bs ↔ a ∈ bs ∨ ∀ b ∈ bs, ¬ Merges a b := by
  have hfound := listed_ofInt (a := a) bs
  constructor
  · intro h
    by_contra hnot
    push Not at hnot
    obtain ⟨hmem, b, hb, hmerges⟩ := hnot
    exact hmem (h.oneOf.1 (hfound.2 (.inr ⟨b, hb, hmerges⟩)))
  · intro h
    have hmem : listed (some (.ofInt a)) (.array (bs.map .ofInt)) = true ↔ a ∈ bs := by
      rw [hfound]
      constructor
      · rintro (hmem | ⟨b, hb, hmerges⟩)
        · exact hmem
        · exact h.resolve_right fun hnone => hnone b hb hmerges
      · exact .inl
    exact ⟨hmem, by rw [holds, Bool.not_eq_true', ← Bool.not_eq_true, hmem]⟩

/-- **Integers are compared by their value exactly if they are not merged**; merged ones are
compared as if they were equal. An integer is looked up in a list by its value exactly if it is in
the list or is merged with nothing there. No integers up to `2⁵³` are merged. -/
theorem comparesByValue_iff_not_merges (a : Int) :
    (∀ b : Int,
      (ComparesByValue a b ↔ ¬ Merges a b) ∧
      (ComparesAsEqual a b ↔ a = b ∨ Merges a b) ∧
      (a.natAbs ≤ 2 ^ 53 → b.natAbs ≤ 2 ^ 53 → ¬ Merges a b)) ∧
    ∀ bs : List Int, ListsByValue a bs ↔ a ∈ bs ∨ ∀ b ∈ bs, ¬ Merges a b := by
  refine ⟨fun b => ⟨⟨?_, comparesByValue_of_not_merges⟩, comparesAsEqual_iff,
    not_merges_of_natAbs_le⟩, fun bs => listsByValue_iff⟩
  intro h hmerges
  exact hmerges.1 (h.eq.1 (comparesAsEqual_iff.2 (.inr hmerges)).eq)

/-- The largest integer of 53 binary digits and its successor are still compared by their value. -/
theorem comparesByValue_last :
    (9007199254740991 : Int).natAbs ≤ 2 ^ 53 ∧ (9007199254740992 : Int).natAbs ≤ 2 ^ 53 ∧
      ComparesByValue 9007199254740991 9007199254740992 ∧
      ListsByValue 9007199254740991 [9007199254740992] := by
  have hfirst : (9007199254740991 : Int).natAbs ≤ 2 ^ 53 := by decide
  have hsecond : (9007199254740992 : Int).natAbs ≤ 2 ^ 53 := by decide
  obtain ⟨hpairs, hlists⟩ := comparesByValue_iff_not_merges 9007199254740991
  obtain ⟨hvalue, -, hapart⟩ := hpairs 9007199254740992
  have hnot := hapart hfirst hsecond
  refine ⟨hfirst, hsecond, hvalue.2 hnot, (hlists _).2 (.inr ?_)⟩
  intro b hb
  rw [List.mem_singleton.1 hb]
  exact hnot

/-- **Two integers of 64 bits that cannot be told apart**: they are different, but count as equal
and not as ordered, and the one is found in a list that holds only the other. -/
theorem merges_next :
    isMachineInteger 9007199254740993 = true ∧ isMachineInteger 9007199254740992 = true ∧
      (9007199254740993 : Int) ≠ 9007199254740992 ∧
      eq.holds (some (.ofInt 9007199254740993)) (.ofInt 9007199254740992) = true ∧
      gt.holds (some (.ofInt 9007199254740993)) (.ofInt 9007199254740992) = false ∧
      oneOf.holds (some (.ofInt 9007199254740993)) (.array [.ofInt 9007199254740992]) = true := by
  decide +kernel

end Comparison

end AccessPolicy
