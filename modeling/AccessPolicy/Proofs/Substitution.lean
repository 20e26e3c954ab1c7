import AccessPolicy.Proofs.Resolution
import AccessPolicy.Proofs.WrittenCondition
import Mathlib.Data.List.Forall2

/-!
# Resolving an operand replaces its references

The value of an operand is the operand with every reference replaced by what stands at its path in
the context. Nothing else changes: a list keeps its length and its order, and a literal is copied,
whatever texts it holds. It is all or nothing. One reference that leads nowhere, in whatever list,
leaves the operand without a value. A list that lost an item instead would refuse less wherever it
lists what is to be refused.

A value of policy data in which no text is read as a reference stands for itself, in every
context. No other value does.

## Main definitions

* `Operand.Becomes` — a value is an operand with its references replaced.
* `Json.ListsText` — a text stands in a value, at the top or inside arrays only.

## Main statements

* `Operand.resolve_eq_some_iff` — the value of an operand is what it becomes.
* `Json.holdsTemplate_iff_listsText` — which texts are read as references.
* `Operand.resolve_ofJson_iff` — the values of policy data that stand for themselves.
* `Operand.resolve_replaces` — the three facts about resolving together.
-/
namespace AccessPolicy

/-! ## What an operand becomes -/

namespace Operand

/-- A value is what an operand becomes in a context: every reference has been replaced by the value
at its path, every list by an array of what its items become, one by one, and every literal has been
copied. -/
inductive Becomes (context : Json) : Operand → Json → Prop
  | literal (v : Json) : Becomes context (literal v) v
  | reference {path : List String} {v : Json} (h : context.at? path = some v) :
      Becomes context (reference path) v
  | list {items : List Operand} {vs : List Json} (h : List.Forall₂ (Becomes context) items vs) :
      Becomes context (list items) (.array vs)

variable {context : Json}

theorem becomes_list_iff {items : List Operand} {v : Json} :
    (list items).Becomes context v ↔ ∃ vs, List.Forall₂ (Becomes context) items vs ∧
      .array vs = v := by
  constructor
  · intro h
    cases h with
    | list h => exact ⟨_, h, rfl⟩
  · rintro ⟨vs, h, rfl⟩
    exact .list h

mutual

/-- **The value of an operand** is what it becomes. -/
theorem resolve_eq_some_iff : ∀ {o : Operand} {v : Json},
    o.resolve context = some v ↔ o.Becomes context v
  | literal w, v => by
    rw [resolve, Option.some.injEq]
    constructor
    · rintro rfl
      exact .literal w
    · intro h
      cases h with
      | literal => rfl
  | reference path, v => by
    rw [resolve]
    constructor
    · exact .reference
    · intro h
      cases h with
      | reference h => exact h
  | list items, v => by
    rw [resolve, Option.map_eq_some_iff, becomes_list_iff]
    simp only [resolveItems_eq_some_iff]

theorem resolveItems_eq_some_iff : ∀ {items : List Operand} {vs : List Json},
    resolveItems context items = some vs ↔ List.Forall₂ (Becomes context) items vs
  | [], vs => by
    rw [resolveItems, Option.some.injEq, List.forall₂_nil_left_iff, eq_comm]
  | o :: rest, vs => by
    simp only [resolveItems, Option.bind_eq_bind, Option.bind_eq_some_iff, Option.pure_def,
      Option.some.injEq, List.forall₂_cons_left_iff, resolve_eq_some_iff, resolveItems_eq_some_iff]
    constructor
    · rintro ⟨v, hv, vs, hvs, rfl⟩
      exact ⟨v, vs, hv, hvs, rfl⟩
    · rintro ⟨v, vs, hv, hvs, rfl⟩
      exact ⟨v, hv, vs, hvs, rfl⟩

end

end Operand

/-! ## Texts that are read as references -/

/-- A path stands in a text exactly if the text encloses it by the marks of a reference. -/
theorem Operand.templatePath?_eq_some_iff {s path : String} :
    templatePath? s = some path ↔ s = "$\x7b" ++ path ++ "\x7d" := by
  constructor
  · intro h
    rw [← template_split h, template, Text.intercalate_split]
  · rintro rfl
    rw [← Text.intercalate_split path]
    exact templatePath?_template (Text.split '.' path)

namespace Json

/-- The text is the value itself or, at any depth, an item of an array in it. What stands inside
objects does not count. -/
inductive ListsText (s : String) : Json → Prop
  | self : ListsText s (.string s)
  | item {v : Json} {items : List Json} (hv : v ∈ items) (h : ListsText s v) :
      ListsText s (.array items)

theorem listsText_array_iff {s : String} {items : List Json} :
    ListsText s (.array items) ↔ ∃ v ∈ items, ListsText s v := by
  constructor
  · intro h
    cases h with
    | item hv h => exact ⟨_, hv, h⟩
  · rintro ⟨v, hv, h⟩
    exact .item hv h

mutual

/-- **A text is read as a reference** if it has the marks of one and stands at the top of a value or
inside arrays only. -/
theorem holdsTemplate_iff_listsText : ∀ {v : Json},
    v.holdsTemplate = true ↔ ∃ path, v.ListsText ("$\x7b" ++ path ++ "\x7d")
  | .string s => by
    have hself : ∀ t, ListsText t (.string s) ↔ s = t := by
      intro t
      constructor
      · intro h
        cases h with
        | self => rfl
      · rintro rfl
        exact .self
    simp only [holdsTemplate, Option.isSome_iff_exists, Operand.templatePath?_eq_some_iff, hself]
  | .array items => by
    simp only [holdsTemplate, itemsHoldTemplate_iff_listsText, listsText_array_iff]
  | .null => ⟨nofun, nofun⟩
  | .bool _ => ⟨nofun, nofun⟩
  | .number _ => ⟨nofun, nofun⟩
  | .object _ => ⟨nofun, nofun⟩

theorem itemsHoldTemplate_iff_listsText : ∀ {items : List Json},
    itemsHoldTemplate items = true ↔
      ∃ path, ∃ v ∈ items, v.ListsText ("$\x7b" ++ path ++ "\x7d")
  | [] => by simp [itemsHoldTemplate]
  | v :: rest => by
    simp only [itemsHoldTemplate, Bool.or_eq_true, holdsTemplate_iff_listsText,
      itemsHoldTemplate_iff_listsText, List.mem_cons, exists_eq_or_imp, exists_or]

end

end Json

namespace Operand

mutual

/-- Without a context no operand has a value that was read from a value with a reference. -/
theorem resolve_ofJson_null : ∀ {v : Json}, v.holdsTemplate = true →
    (ofJson v).resolve .null = none
  | .string s, h => by
    obtain ⟨path, hpath⟩ := Option.isSome_iff_exists.1 h
    rw [ofJson, hpath]
    exact resolve_ofPath_null path
  | .array items, h => by
    rw [ofJson, resolve, resolveItems_ofItems_null h]
    rfl
  | .null, h => nomatch h
  | .bool _, h => nomatch h
  | .number _, h => nomatch h
  | .object _, h => nomatch h

theorem resolveItems_ofItems_null : ∀ {items : List Json}, Json.itemsHoldTemplate items = true →
    resolveItems .null (ofItems items) = none
  | [], h => nomatch h
  | v :: rest, h => by
    rw [ofItems, resolveItems]
    rcases Bool.or_eq_true_iff.1 h with hv | hrest
    · rw [resolve_ofJson_null hv]
      rfl
    · rw [resolveItems_ofItems_null hrest]
      cases (ofJson v).resolve .null <;> rfl

end

/-- **The values of policy data that stand for themselves**, in every context, are those in which no
text is read as a reference. -/
theorem resolve_ofJson_iff {v : Json} :
    (∀ context, (ofJson v).resolve context = some v) ↔ v.holdsTemplate = false := by
  constructor
  · intro h
    rw [← Bool.not_eq_true]
    intro hholds
    have hnone := h .null
    rw [resolve_ofJson_null hholds] at hnone
    cases hnone
  · intro h context
    exact resolve_ofJson context v h

/-- **Resolving replaces the references**, all of them or none. An operand has no value exactly if
one of its references, in whatever list, leads nowhere. Otherwise its value is what it becomes: the
operand with each reference replaced by the value at its path, the lists as long and in the same
order, and the literals copied. So a value of policy data stands for itself in every context exactly
if no text at its top, or in it inside arrays only, has the marks of a reference. -/
theorem resolve_replaces :
    (∀ (o : Operand) (context : Json),
      o.resolve context = none ↔ ∃ path ∈ o.paths, context.at? path = none) ∧
    (∀ (o : Operand) (context v : Json), o.resolve context = some v ↔ o.Becomes context v) ∧
    ∀ v : Json, (∀ context, (ofJson v).resolve context = some v) ↔
      ¬ ∃ path, v.ListsText ("$\x7b" ++ path ++ "\x7d") := by
  refine ⟨fun o context => resolve_eq_none_iff o, fun o context v => resolve_eq_some_iff, ?_⟩
  intro v
  rw [resolve_ofJson_iff, ← Json.holdsTemplate_iff_listsText, Bool.not_eq_true]

/-- The principal has no location. The reference in the inner list leads nowhere, and the text
beside it is lost with the whole operand; the same reference is copied out of a literal. -/
example :
    (list [.literal (.string "HQ"), .list [.reference ["user", "location"]]]).resolve
        (.object [("user", .object [])]) = none ∧
      (literal (.array [.string (template ["user", "location"])])).resolve
        (.object [("user", .object [])]) =
          some (.array [.string (template ["user", "location"])]) :=
  ⟨rfl, rfl⟩

end Operand

end AccessPolicy
