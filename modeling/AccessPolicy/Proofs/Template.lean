import AccessPolicy.Operand
import Mathlib.Data.List.Basic

/-!
# Texts that have the form of a reference

In policy data a reference is a text, so texts are of two kinds: those that have the form of a
reference, and all others, which stand for themselves. Writing a reference gives a text of the
first kind, and its path comes back when the text is read, provided that the path itself was
given as a text: splitting at the points and joining by points is then no change.

A literal that is a text of the first kind is written as that text, and read as a reference. The
same happens to a text inside a literal array, since arrays are read item by item, but not to
one inside an object.

## Main definitions

* `Json.holdsTemplate` — whether a text in a value is read as a reference.
* `Operand.holdsTemplate` — whether a literal of an operand holds such a text.

## Main statements

* `Text.intercalate_split`, `Text.split_intercalate` — joining the parts of a text gives the text,
  and splitting the joined keys gives the keys.
* `Operand.ofJson_reference`, `Operand.ofJson_template` — a written reference is read as that
  reference.
* `Operand.toJson_ofJson` — what is read from a value is written as that value.
* `Operand.resolve_ofJson` — a value without such texts is read as an operand that stands for it.
-/
namespace AccessPolicy

/-! ## Splitting and joining -/

namespace Text

theorem splitChars_ne_nil (separator : Char) (text : List Char) :
    splitChars separator text ≠ [] := by
  cases text with
  | nil => simp [splitChars]
  | cons c rest =>
    rw [splitChars]
    split
    · simp
    · split <;> simp

theorem intercalate_splitChars (separator : Char) (text : List Char) :
    [separator].intercalate (splitChars separator text) = text := by
  induction text with
  | nil => rfl
  | cons c rest ih =>
    rw [splitChars]
    cases hparts : splitChars separator rest with
    | nil => exact absurd hparts (splitChars_ne_nil separator rest)
    | cons part parts =>
      rw [hparts] at ih
      by_cases hc : c = separator
      · subst hc
        simp [List.intercalate_cons_cons, ih]
      · -- The character is put in front of the first part, and joining leaves it there.
        have hfront : [separator].intercalate ((c :: part) :: parts) =
            c :: [separator].intercalate (part :: parts) := by
          cases parts with
          | nil => simp
          | cons next parts => simp [List.intercalate_cons_cons]
        simp only [hc, if_false, hfront, ih]

/-- **Joining the parts of a text** gives the text. -/
theorem intercalate_split (s : String) : ".".intercalate (split '.' s) = s := by
  rw [← String.toList_inj, String.toList_intercalate, split, List.map_map]
  have hparts : (splitChars '.' s.toList).map (String.toList ∘ String.ofList) =
      splitChars '.' s.toList := by
    simp [Function.comp_def]
  rw [hparts]
  exact intercalate_splitChars '.' s.toList

/-- What has no separator in it is one part. -/
theorem splitChars_of_notMem {separator : Char} {part : List Char} (h : separator ∉ part) :
    splitChars separator part = [part] := by
  induction part with
  | nil => rfl
  | cons c rest ih =>
    rw [List.mem_cons, not_or] at h
    rw [splitChars, ih h.2]
    simp [Ne.symm h.1]

/-- Up to the first separator there is one part. -/
theorem splitChars_append {separator : Char} {part : List Char} (h : separator ∉ part)
    (text : List Char) :
    splitChars separator (part ++ separator :: text) = part :: splitChars separator text := by
  induction part with
  | nil =>
    rw [List.nil_append, splitChars]
    cases hparts : splitChars separator text with
    | nil => exact absurd hparts (splitChars_ne_nil separator text)
    | cons first parts => simp
  | cons c rest ih =>
    rw [List.mem_cons, not_or] at h
    rw [List.cons_append, splitChars, ih h.2]
    simp [Ne.symm h.1]

theorem splitChars_intercalate {separator : Char} {parts : List (List Char)} (hne : parts ≠ [])
    (h : ∀ part ∈ parts, separator ∉ part) :
    splitChars separator ([separator].intercalate parts) = parts := by
  induction parts with
  | nil => exact absurd rfl hne
  | cons part rest ih =>
    have hpart : separator ∉ part := h part List.mem_cons_self
    cases rest with
    | nil => simpa using splitChars_of_notMem hpart
    | cons next rest =>
      have hrest := ih (List.cons_ne_nil next rest) fun q hq => h q (List.mem_cons_of_mem part hq)
      rw [List.intercalate_cons_cons, List.append_assoc, List.singleton_append,
        splitChars_append hpart, hrest]

/-- **Splitting at the points** gives back the keys that have been joined, if there is one at least
and none of them has a point in it. -/
theorem split_intercalate {keys : List String} (hne : keys ≠ [])
    (h : ∀ key ∈ keys, '.' ∉ key.toList) : split '.' (".".intercalate keys) = keys := by
  have hparts : ∀ part ∈ keys.map String.toList, '.' ∉ part := by
    intro part hpart
    obtain ⟨key, hkey, rfl⟩ := List.mem_map.1 hpart
    exact h key hkey
  have hsplit := splitChars_intercalate (by simpa using hne) hparts
  have hpoint : ".".toList = ['.'] := rfl
  rw [split, String.toList_intercalate, hpoint, hsplit, List.map_map]
  simp [Function.comp_def]

end Text

namespace Operand

/-! ## Written references -/

/-- The path that is written in a reference is found in its text. -/
theorem templatePath?_template (path : List String) :
    templatePath? (template path) = some (".".intercalate path) := by
  have htext : (template path).toList =
      '$' :: '\x7b' :: ((".".intercalate path).toList ++ ['\x7d']) := by
    simp [template]
  simp only [templatePath?, htext, List.getLast?_concat, if_true, List.dropLast_concat,
    String.ofList_toList]

/-- **A written reference is read as that reference**, if its path was given as a text. -/
theorem ofJson_reference (s : String) : ofJson (ofPath s).toJson = ofPath s := by
  rw [ofPath, toJson, ofJson, templatePath?_template, Text.intercalate_split]
  rfl

/-- **The text of a reference is read as a reference to its keys**, if there is one at least and
none of them has a point in it. -/
theorem ofJson_template {keys : List String} (hne : keys ≠ [])
    (h : ∀ key ∈ keys, '.' ∉ key.toList) : ofJson (.string (template keys)) = reference keys := by
  rw [ofJson, templatePath?_template]
  change ofPath (".".intercalate keys) = reference keys
  rw [ofPath, Text.split_intercalate hne h]

/-- A text in which a path is found is the text of a reference with that path. -/
theorem template_split {s path : String} (h : templatePath? s = some path) :
    template (Text.split '.' path) = s := by
  rw [template, Text.intercalate_split, ← String.toList_inj]
  rw [templatePath?] at h
  split at h
  · rename_i rest htext
    split at h
    · rename_i hlast
      cases h
      simp [htext, List.dropLast_append_getLast? _ hlast]
    · cases h
  · cases h

mutual

/-- **What is read from a value is written as that value.** -/
theorem toJson_ofJson : ∀ v : Json, (ofJson v).toJson = v
  | .null => rfl
  | .bool _ => rfl
  | .number _ => rfl
  | .string s => by
    rw [ofJson]
    cases hs : templatePath? s with
    | none => rfl
    | some path => exact congrArg Json.string (template_split hs)
  | .array items => congrArg Json.array (toItems_ofItems items)
  | .object _ => rfl

theorem toItems_ofItems : ∀ vs : List Json, toItems (ofItems vs) = vs
  | [] => rfl
  | v :: rest => by rw [ofItems, toItems, toJson_ofJson v, toItems_ofItems rest]

end

end Operand

/-! ## Texts that are read as references -/

mutual

/-- Whether some text in a value is read as a reference: the value itself or, at any depth, an
item of an array. Texts inside objects are not looked at. -/
def Json.holdsTemplate : Json → Bool
  | .string s => (Operand.templatePath? s).isSome
  | .array items => Json.itemsHoldTemplate items
  | _ => false

/-- Whether some text in one of the values is read as a reference. -/
def Json.itemsHoldTemplate : List Json → Bool
  | [] => false
  | v :: rest => v.holdsTemplate || Json.itemsHoldTemplate rest

end

namespace Operand

mutual

/-- Whether a literal of the operand holds a text that is read as a reference. -/
def holdsTemplate : Operand → Bool
  | literal v => v.holdsTemplate
  | reference _ => false
  | list items => itemsHoldTemplate items

/-- Whether a literal of one of the operands holds a text that is read as a reference. -/
def itemsHoldTemplate : List Operand → Bool
  | [] => false
  | o :: rest => holdsTemplate o || itemsHoldTemplate rest

end

mutual

/-- What is read from a value holds no such text any more: it has become a reference. -/
theorem holdsTemplate_ofJson : ∀ v : Json, (ofJson v).holdsTemplate = false
  | .null => rfl
  | .bool _ => rfl
  | .number _ => rfl
  | .string s => by
    rw [ofJson]
    cases hs : templatePath? s with
    | none => simp [holdsTemplate, Json.holdsTemplate, hs]
    | some path => rfl
  | .array items => itemsHoldTemplate_ofItems items
  | .object _ => rfl

theorem itemsHoldTemplate_ofItems : ∀ vs : List Json, itemsHoldTemplate (ofItems vs) = false
  | [] => rfl
  | v :: rest => by
    rw [ofItems, itemsHoldTemplate, holdsTemplate_ofJson v, itemsHoldTemplate_ofItems rest]
    rfl

end

mutual

/-- **A value without texts that are read as references** is read as an operand that stands for
it, in every context. -/
theorem resolve_ofJson (context : Json) : ∀ v : Json, v.holdsTemplate = false →
    (ofJson v).resolve context = some v
  | .null, _ => rfl
  | .bool _, _ => rfl
  | .number _, _ => rfl
  | .string s, h => by
    have hs : templatePath? s = none := by simpa [Json.holdsTemplate] using h
    rw [ofJson, hs]
    rfl
  | .array items, h => by
    rw [ofJson, resolve, resolveItems_ofItems context items h]
    rfl
  | .object _, _ => rfl

theorem resolveItems_ofItems (context : Json) : ∀ vs : List Json,
    Json.itemsHoldTemplate vs = false → resolveItems context (ofItems vs) = some vs
  | [], _ => rfl
  | v :: rest, h => by
    obtain ⟨hv, hrest⟩ := Bool.or_eq_false_iff.1 h
    rw [ofItems, resolveItems, resolve_ofJson context v hv, resolveItems_ofItems context rest hrest]
    rfl

end

end Operand

end AccessPolicy
