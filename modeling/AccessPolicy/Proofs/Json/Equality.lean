import AccessPolicy.Comparison

/-!
# Equality of values

Values are the same if they are built alike, down to the kind of their numbers. Two numbers are
equal already if they round to the same number of the 64-bit format; all other values are equal
if they are the same.

## Main statements

* `Json.same_refl`, `Json.equal_refl` — every value is the same as itself and equal to itself.
* `Json.same_comm`, `Json.same_trans` — sameness is symmetric and transitive.
* `Json.equivalence_equal` — equality is an equivalence.
-/
namespace AccessPolicy

theorem Number.same_refl (n : Number) : n.same n = true := by
  cases n <;> simp [same]

theorem Number.same_comm (m n : Number) : m.same n = n.same m := by
  cases m <;> cases n <;> simp [same, eq_comm]

theorem Number.same_trans {k m n : Number} (hkm : k.same m = true) (hmn : m.same n = true) :
    k.same n = true := by
  cases k <;> cases m <;> cases n <;> simp_all [same]

namespace Json

mutual

/-- **Every value is the same as itself.** -/
theorem same_refl : ∀ v : Json, v.same v = true
  | null => rfl
  | bool b => by simp [same]
  | number n => Number.same_refl n
  | string s => by simp [same]
  | array items => sameItems_refl items
  | object fields => sameFields_refl fields

theorem sameItems_refl : ∀ items : List Json, sameItems items items = true
  | [] => rfl
  | v :: rest => by rw [sameItems, same_refl v, sameItems_refl rest]; rfl

theorem sameFields_refl : ∀ fields : List (String × Json), sameFields fields fields = true
  | [] => rfl
  | (k, v) :: rest => by
    rw [sameFields, same_refl v, sameFields_refl rest]
    simp

end

/-- **Every value is equal to itself.** -/
theorem equal_refl (v : Json) : v.equal v = true := by
  cases v with
  | number n => simp [equal]
  | _ => exact same_refl _

/-! ## Symmetry -/

mutual

/-- **Sameness is symmetric.** -/
theorem same_comm : ∀ a b : Json, a.same b = b.same a
  | null, b => by cases b <;> rfl
  | bool _, b => by cases b <;> simp [same, eq_comm]
  | number m, b => by
    cases b with
    | number n => exact Number.same_comm m n
    | _ => rfl
  | string _, b => by cases b <;> simp [same, eq_comm]
  | array as, b => by
    cases b with
    | array bs => exact sameItems_comm as bs
    | _ => rfl
  | object as, b => by
    cases b with
    | object bs => exact sameFields_comm as bs
    | _ => rfl

theorem sameItems_comm : ∀ as bs : List Json, sameItems as bs = sameItems bs as
  | [], bs => by cases bs <;> rfl
  | a :: as, bs => by
    cases bs with
    | nil => rfl
    | cons b bs => simp only [sameItems, same_comm a b, sameItems_comm as bs]

theorem sameFields_comm : ∀ as bs : List (String × Json), sameFields as bs = sameFields bs as
  | [], bs => by cases bs <;> rfl
  | (k, a) :: as, bs => by
    cases bs with
    | nil => rfl
    | cons b bs => simp only [sameFields, same_comm a b.2, sameFields_comm as bs, eq_comm (a := k)]

end

theorem equal_comm (a b : Json) : a.equal b = b.equal a := by
  cases a <;> cases b <;> first | exact same_comm _ _ | simp [equal, eq_comm]

/-! ## Transitivity -/

theorem eq_of_same_null {b : Json} (h : null.same b = true) : b = null := by
  cases b with
  | null => rfl
  | _ => cases h

theorem eq_of_same_bool {x : Bool} {b : Json} (h : (bool x).same b = true) : b = bool x := by
  cases b <;> simp_all [same]

theorem eq_of_same_string {s : String} {b : Json} (h : (string s).same b = true) :
    b = string s := by
  cases b <;> simp_all [same]

theorem exists_of_same_number {m : Number} {b : Json} (h : (number m).same b = true) :
    ∃ n, b = number n ∧ m.same n = true := by
  cases b with
  | number n => exact ⟨n, rfl, h⟩
  | _ => cases h

theorem exists_of_same_array {as : List Json} {b : Json} (h : (array as).same b = true) :
    ∃ bs, b = array bs ∧ sameItems as bs = true := by
  cases b with
  | array bs => exact ⟨bs, rfl, h⟩
  | _ => cases h

theorem exists_of_same_object {as : List (String × Json)} {b : Json}
    (h : (object as).same b = true) : ∃ bs, b = object bs ∧ sameFields as bs = true := by
  cases b with
  | object bs => exact ⟨bs, rfl, h⟩
  | _ => cases h

mutual

/-- **Sameness is transitive.** -/
theorem same_trans : ∀ {a b c : Json}, a.same b = true → b.same c = true → a.same c = true
  | null, _, _, hab, hbc => by
    rw [eq_of_same_null hab] at hbc
    exact hbc
  | bool _, _, _, hab, hbc => by
    rw [eq_of_same_bool hab] at hbc
    exact hbc
  | string _, _, _, hab, hbc => by
    rw [eq_of_same_string hab] at hbc
    exact hbc
  | number _, _, _, hab, hbc => by
    obtain ⟨m, rfl, hm⟩ := exists_of_same_number hab
    obtain ⟨n, rfl, hn⟩ := exists_of_same_number hbc
    exact Number.same_trans hm hn
  | array _, _, _, hab, hbc => by
    obtain ⟨bs, rfl, hbs⟩ := exists_of_same_array hab
    obtain ⟨cs, rfl, hcs⟩ := exists_of_same_array hbc
    exact sameItems_trans hbs hcs
  | object _, _, _, hab, hbc => by
    obtain ⟨bs, rfl, hbs⟩ := exists_of_same_object hab
    obtain ⟨cs, rfl, hcs⟩ := exists_of_same_object hbc
    exact sameFields_trans hbs hcs

theorem sameItems_trans : ∀ {as bs cs : List Json}, sameItems as bs = true →
    sameItems bs cs = true → sameItems as cs = true
  | [], [], _, _, hbc => hbc
  | a :: as, b :: bs, c :: cs, hab, hbc => by
    simp only [sameItems, Bool.and_eq_true] at hab hbc ⊢
    exact ⟨same_trans hab.1 hbc.1, sameItems_trans hab.2 hbc.2⟩

theorem sameFields_trans : ∀ {as bs cs : List (String × Json)}, sameFields as bs = true →
    sameFields bs cs = true → sameFields as cs = true
  | [], [], _, _, hbc => hbc
  | (k, a) :: as, (l, b) :: bs, (m, c) :: cs, hab, hbc => by
    simp only [sameFields, Bool.and_eq_true, decide_eq_true_eq] at hab hbc ⊢
    exact ⟨⟨hab.1.1.trans hbc.1.1, same_trans hab.1.2 hbc.1.2⟩, sameFields_trans hab.2 hbc.2⟩

end

/-- Equality is sameness, but for two numbers. -/
theorem equal_eq_same {a : Json} (ha : ∀ n, a ≠ number n) (b : Json) :
    a.equal b = a.same b := by
  cases a with
  | number n => exact absurd rfl (ha n)
  | _ => cases b <;> rfl

theorem exists_of_equal_number {m : Number} {b : Json} (h : (number m).equal b = true) :
    ∃ n, b = number n ∧ m.value = n.value := by
  cases b with
  | number n => exact ⟨n, rfl, by simpa [equal] using h⟩
  | _ => cases h

theorem equal_trans {a b c : Json} (hab : a.equal b = true) (hbc : b.equal c = true) :
    a.equal c = true := by
  by_cases ha : ∃ k, a = number k
  · obtain ⟨k, rfl⟩ := ha
    obtain ⟨m, rfl, hkm⟩ := exists_of_equal_number hab
    obtain ⟨n, rfl, hmn⟩ := exists_of_equal_number hbc
    simp [equal, hkm, hmn]
  · have hb : ∀ m, b ≠ number m := by
      rintro m rfl
      rw [equal_comm] at hab
      obtain ⟨k, rfl, -⟩ := exists_of_equal_number hab
      exact ha ⟨k, rfl⟩
    have ha' : ∀ k, a ≠ number k := fun k hk => ha ⟨k, hk⟩
    rw [equal_eq_same ha'] at hab ⊢
    rw [equal_eq_same hb] at hbc
    exact same_trans hab hbc

/-- **Equality is an equivalence.** -/
theorem equivalence_equal : Equivalence fun a b : Json => a.equal b = true where
  refl := equal_refl
  symm := by
    intro a b hab
    rw [equal_comm, hab]
  trans := equal_trans

end Json

end AccessPolicy
