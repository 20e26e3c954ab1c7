import AccessPolicy.Proofs.Predicate.NormalForm

/-!
# What a filter means

A filter is made for an operator and an expected value. Some pairs are refused, and of the others
the value may be changed: for a comparison with a list a single value becomes the list of it. Both
could go wrong without a sign, since a store only ever sees filters. Neither does. What is refused
is what no field value passes, and a filter passes the field values that the operator holds of.

The change is made once. A filter is in normal form exactly if making it again, from its own
comparison and its own value, gives the filter back.

## Main statements

* `Filter.isNormal_iff` — the filters in normal form are those that are made as themselves.
* `Filter.ofOperator?_keeps_meaning` — a filter means what its operator means, or there is none.
-/
namespace AccessPolicy

/-- A list is the list of its members. -/
theorem Json.array_members {v : Json} (h : v.kindName = "array") : .array v.members = v := by
  cases v with
  | array items => rfl
  | _ => simp [kindName] at h

namespace Filter

variable {f : Filter}

/-- A value that is in normal form can be compared with. -/
theorem IsNormal.isSatisfiable (h : f.IsNormal) : isSatisfiable f.comparison f.value = true := by
  rw [← Bool.not_eq_false, isSatisfiable_eq_false_iff]
  rintro (⟨horder, hkind⟩ | ⟨hcontains, hkind⟩)
  · exact hkind (h.ordered horder)
  · exact hkind (h.contained hcontains)

/-- A value that is in normal form is not changed any more. -/
theorem IsNormal.listValue_eq (h : f.IsNormal) : listValue f.comparison f.value = f.value := by
  cases hc : f.comparison with
  | oneOf => exact Json.array_members (h.listed (by simp [hc]))
  | noneOf => exact Json.array_members (h.listed (by simp [hc]))
  | _ => rfl

/-- **The filters in normal form** are those that are made as themselves. -/
theorem isNormal_iff : f.IsNormal ↔ ofOperator? (.known f.comparison) f.value = some f := by
  constructor
  · intro h
    rw [ofOperator?, if_pos h.isSatisfiable, h.listValue_eq]
  · exact isNormal_of_ofOperator?

/-- The operator of a filter is known, and it is the filter's comparison. -/
theorem eq_known_of_ofOperator? {o : Operator} {expected : Json}
    (h : ofOperator? o expected = some f) : o = .known f.comparison := by
  cases o with
  | unknown name => cases h
  | known c =>
    rw [ofOperator?] at h
    split at h
    · cases h
      rfl
    · cases h

/-- **Making a filter keeps the meaning.** For every operator and every expected value there is
either no filter, and then the operator holds of no field value, present or absent; or there is one,
and it passes exactly the field values that the operator holds of. In that case the operator is
known and is that of the filter, and the filter that is made for the value of the filter is the same
again. -/
theorem ofOperator?_keeps_meaning (o : Operator) (expected : Json) :
    (ofOperator? o expected = none ∧ ∀ value, o.holds value expected = false) ∨
      ∃ f, ofOperator? o expected = some f ∧
        (∀ value, f.passes value = o.holds value expected) ∧
        o = .known f.comparison ∧ o.isKnown = true ∧ ofOperator? o f.value = some f := by
  have hmeaning := any_ofOperator? o expected
  cases hf : ofOperator? o expected with
  | none =>
    left
    refine ⟨rfl, fun value => ?_⟩
    rw [← hmeaning, hf, Option.any_none]
  | some f =>
    right
    have hoperator : o = .known f.comparison := eq_known_of_ofOperator? hf
    refine ⟨f, rfl, fun value => ?_, hoperator, ?_, ?_⟩
    · rw [← hmeaning, hf, Option.any_some]
    · rw [hoperator]
      rfl
    · rw [hoperator]
      exact isNormal_iff.1 (isNormal_of_ofOperator? hf)

/-- A single value is listed once; the list of it is not listed again. -/
example :
    ofOperator? (.known .noneOf) (.string "north") = some ⟨.noneOf, .array [.string "north"]⟩ ∧
      ofOperator? (.known .noneOf) (.array [.string "north"]) =
        some ⟨.noneOf, .array [.string "north"]⟩ :=
  ⟨rfl, rfl⟩

end Filter

end AccessPolicy
