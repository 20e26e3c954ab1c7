import AccessPolicy.Operand

/-!
# Which operands have a value

An operand is resolved as a whole: its references are looked up in the context wherever they
stand, at the top or in nested lists, and one that leads nowhere leaves the operand without a
value. So what an operand asks of a context is told by the paths of its references.

## Main definitions

* `Operand.paths` — the paths of the references in an operand.
* `Json.AgreeAt` — two contexts with the same values, or none, at some paths.

## Main statements

* `Operand.resolve_eq_none_iff` — an operand has no value if one of its references has none.
* `Operand.resolve_congr` — an operand looks at a context at the paths of its references only.
-/
namespace AccessPolicy

/-- Two contexts agree at paths if the same value is there in both, or nothing in both. -/
def Json.AgreeAt (paths : List (List String)) (c d : Json) : Prop :=
  ∀ path ∈ paths, c.at? path = d.at? path

namespace Operand

mutual

/-- The paths of the references in an operand. -/
def paths : Operand → List (List String)
  | literal _ => []
  | reference path => [path]
  | list items => itemPaths items

/-- The paths of the references in operands. -/
def itemPaths : List Operand → List (List String)
  | [] => []
  | o :: rest => paths o ++ itemPaths rest

end

mutual

/-- **An operand has no value** exactly if one of its references, at whatever depth, leads
nowhere. -/
theorem resolve_eq_none_iff {context : Json} : ∀ o : Operand,
    o.resolve context = none ↔ ∃ path ∈ o.paths, context.at? path = none
  | literal v => by simp [resolve, paths]
  | reference path => by simp [resolve, paths]
  | list items => by
    rw [resolve, Option.map_eq_none_iff, paths]
    exact resolveItems_eq_none_iff items

theorem resolveItems_eq_none_iff {context : Json} : ∀ items : List Operand,
    resolveItems context items = none ↔ ∃ path ∈ itemPaths items, context.at? path = none
  | [] => by simp [resolveItems, itemPaths]
  | o :: rest => by
    have hitems : resolveItems context (o :: rest) = none ↔
        o.resolve context = none ∨ resolveItems context rest = none := by
      rw [resolveItems]
      cases o.resolve context with
      | none => simp
      | some v => cases resolveItems context rest <;> simp
    rw [hitems, resolve_eq_none_iff o, resolveItems_eq_none_iff rest, itemPaths]
    simp only [List.mem_append, or_and_right, exists_or]

end

mutual

/-- **An operand looks at a context** at the paths of its references and nowhere else. -/
theorem resolve_congr {c d : Json} : ∀ o : Operand,
    Json.AgreeAt o.paths c d → o.resolve c = o.resolve d
  | literal _, _ => rfl
  | reference path, h => h path List.mem_cons_self
  | list items, h => congrArg (Option.map Json.array) (resolveItems_congr items h)

theorem resolveItems_congr {c d : Json} : ∀ items : List Operand,
    Json.AgreeAt (itemPaths items) c d → resolveItems c items = resolveItems d items
  | [], _ => rfl
  | o :: rest, h => by
    have ho : Json.AgreeAt o.paths c d :=
      fun path hpath => h path (List.mem_append_left _ hpath)
    have hrest : Json.AgreeAt (itemPaths rest) c d :=
      fun path hpath => h path (List.mem_append_right _ hpath)
    rw [resolveItems, resolveItems, resolve_congr o ho, resolveItems_congr rest hrest]

end

end Operand

end AccessPolicy
