import AccessPolicy.Proofs.MalformedCondition
import AccessPolicy.Proofs.Template

/-!
# Policy data is written as it was read

Reading an operand takes texts apart and turns some of them into references, and reading a
condition is lenient: a value of any form is read. Writing puts together again what was taken
apart, so operands, operators and the conditions of the right form are written as they were read.

A value of another form is not lost either. It is kept as a literal, and written as the only value
of an object, under the made-up name of its operator. That object has the right form, so from then
on it is written as it was read, and the operator stays the same. Its operand need not: texts in
the literal may have become references.

## Main statements

* `Condition.toJson_ofJson_singleton` — conditions of the right form are written as they were read.
* `Condition.toJson_ofJson_cases` — what is written of a value of any form.
* `Condition.writing_undoes_reading` — all of policy data together.
-/
namespace AccessPolicy

namespace Condition

/-- **A condition of the right form** is written as it was read. -/
theorem toJson_ofJson_singleton (name : String) (expected : Json) :
    (ofJson (.object [(name, expected)])).toJson = .object [(name, expected)] := by
  rw [ofJson, toJson, Operator.name_ofName, Operand.toJson_ofJson]

/-- **What is written of a value of any form**: the value itself, or an object that holds it under
a name that names no comparison. -/
theorem toJson_ofJson_cases (v : Json) :
    (ofJson v).toJson = v ∨
      ∃ name, name ∉ Comparison.all.map Comparison.name ∧
        (ofJson v).toJson = .object [(name, v)] := by
  obtain ⟨name, expected, rfl, -⟩ | ⟨-, name, hname, hread⟩ := ofJson_cases v
  · exact .inl (toJson_ofJson_singleton name expected)
  · refine .inr ⟨name, hname, ?_⟩
    rw [hread]
    rfl

/-- Exactly the values of the right form are written as they were read. -/
theorem toJson_ofJson_eq_iff {v : Json} :
    (ofJson v).toJson = v ↔ ∃ name expected, v = .object [(name, expected)] := by
  constructor
  · intro h
    exact ⟨_, _, h.symm⟩
  · rintro ⟨name, expected, rfl⟩
    exact toJson_ofJson_singleton name expected

/-- What is written of a condition has the right form, whatever the condition. -/
theorem toJson_ofJson_toJson (c : Condition) : (ofJson c.toJson).toJson = c.toJson :=
  toJson_ofJson_singleton _ _

/-- **Writing undoes reading.** An operand is written as the value that it was read from, and a
condition is if and only if that value is an object with one key; any other value is kept inside
such an object. What is written of a condition that was read from any value is read as a condition
with the same operator, and this is written in the same way. An operator has the name that it was
found by. -/
theorem writing_undoes_reading :
    (∀ v : Json, (Operand.ofJson v).toJson = v) ∧
    (∀ v : Json, (ofJson v).toJson = v ↔ ∃ name expected, v = .object [(name, expected)]) ∧
    (∀ v : Json, (ofJson v).toJson = v ∨
      ∃ name, name ∉ Comparison.all.map Comparison.name ∧
        (ofJson v).toJson = .object [(name, v)]) ∧
    (∀ v : Json, (ofJson (ofJson v).toJson).operator = (ofJson v).operator ∧
      (ofJson (ofJson v).toJson).toJson = (ofJson v).toJson) ∧
    ∀ name : String, (Operator.ofName name).name = name := by
  refine ⟨Operand.toJson_ofJson, fun v => toJson_ofJson_eq_iff, toJson_ofJson_cases, ?_,
    Operator.name_ofName⟩
  intro v
  exact ⟨isOwnName_ofJson v, toJson_ofJson_toJson (ofJson v)⟩

/-- The text in the list is a literal at first, since a list is no condition, and a reference after
the list was written and read again. -/
example :
    ofJson (.array [.string "$\x7buser.id\x7d"]) =
        ⟨.unknown "<array>", .literal (.array [.string "$\x7buser.id\x7d"])⟩ ∧
      ofJson (ofJson (.array [.string "$\x7buser.id\x7d"])).toJson =
        ⟨.unknown "<array>", .list [.reference ["user", "id"]]⟩ :=
  ⟨rfl, rfl⟩

end Condition

end AccessPolicy
