import AccessPolicy.Proofs.Dict
import AccessPolicy.Proofs.Json.Decoder

/-!
# The value that a written value reads as

A written object may list its keys in any order and may repeat them. Reading it gives an object
with every key once, in ascending order, where of a repeated key the last value counts, and so
on inside. Apart from the limit on nesting there is no value that cannot be read back.

## Main definitions

* `Json.depth` — how deep containers are nested in a value.
* `Json.canonical` — the value that a value reads as.

## Main statements

* `Decoder.json_ofJson` — a value that is not nested too deep is read as its canonical form.
* `Decoder.json_eq_ok_iff` — nothing else can be read.
* `Json.record?_canonical` — the canonical form has the same keys.
* `Json.canonical_eq_singleton_iff` — objects with one key, of which only the last value counts.
-/
namespace AccessPolicy

namespace Json

mutual

/-- How many containers are open at the innermost place of a value. -/
def depth : Json → Nat
  | array items => depthItems items + 1
  | object fields => depthFields fields + 1
  | _ => 0

/-- The depth of the deepest item. -/
def depthItems : List Json → Nat
  | [] => 0
  | v :: rest => max (depth v) (depthItems rest)

/-- The depth of the deepest field. -/
def depthFields : List (String × Json) → Nat
  | [] => 0
  | (_, v) :: rest => max (depth v) (depthFields rest)

end

mutual

/-- The value that a value reads as. -/
def canonical : Json → Json
  | array items => array (canonicalItems items)
  | object fields => .ofFields (canonicalFields fields)
  | v => v

/-- The values that items read as. -/
def canonicalItems : List Json → List Json
  | [] => []
  | v :: rest => canonical v :: canonicalItems rest

/-- The fields of an object with the values that they read as. -/
def canonicalFields : List (String × Json) → List (String × Json)
  | [] => []
  | (k, v) :: rest => (k, canonical v) :: canonicalFields rest

end

theorem canonicalFields_eq_map (fields : List (String × Json)) :
    canonicalFields fields = fields.map fun e => (e.1, e.2.canonical) := by
  induction fields with
  | nil => rfl
  | cons e rest ih => rw [canonicalFields, ih, List.map_cons]

/-- The canonical form of an object has the fields of the object, each in canonical form. -/
theorem record?_canonical (v : Json) :
    v.canonical.record? = v.record?.map fun record => record.map fun _ v => v.canonical := by
  cases v with
  | object fields =>
    have hofList : Dict.ofList (canonicalFields fields) =
        (Dict.ofList fields).map fun _ v => v.canonical := by
      rw [canonicalFields_eq_map]
      exact Dict.ofList_map (fun _ v => v.canonical) fields
    simp only [canonical, ofFields, ofDict, record?, hofList, Option.map_some, Dict.ofList_entries]
  | _ => rfl

/-- An object reads as an object with one key exactly if this is its only key. -/
theorem canonical_eq_singleton_iff {v : Json} {k : String} :
    (∃ field, v.canonical = .object [(k, field)]) ↔ v.record?.map Dict.keys = some [k] := by
  have hkeys : v.record?.map Dict.keys = v.canonical.record?.map Dict.keys := by
    rw [record?_canonical]
    cases v.record? with
    | none => rfl
    | some record => simp
  rw [hkeys]
  constructor
  · intro h
    obtain ⟨field, hfield⟩ := h
    rw [hfield]
    rfl
  · intro h
    cases v with
    | object fields =>
      simp only [canonical, ofFields, ofDict, record?, Dict.ofList_entries, Option.map_some,
        Option.some.injEq, Dict.keys] at h ⊢
      obtain ⟨e, hentries, rfl⟩ := List.map_eq_singleton_iff.1 h
      exact ⟨e.2, by rw [hentries]⟩
    | _ => simp [canonical, record?] at h

end Json

namespace Decoder

mutual

/-- **Every value can be read**, as its canonical form, at a place where enough levels are
left. -/
theorem json_ofJson : ∀ (v : Json) (p : Place), v.depth ≤ p.levels →
    json p (.ofJson v) = .ok v.canonical
  | .null, _, _ => rfl
  | .bool _, _, _ => rfl
  | .number _, _, _ => rfl
  | .string _, _, _ => rfl
  | .array vs, p, h => by
    obtain ⟨inner, henter, hinner⟩ := Place.exists_enter h
    simp only [Document.ofJson, json, bind_eq_ok, pure_eq_ok]
    exact ⟨inner, henter, _, jsonItems_ofItems vs inner 0 hinner, (), rfl, rfl⟩
  | .object fields, p, h => by
    obtain ⟨inner, henter, hinner⟩ := Place.exists_enter h
    simp only [Document.ofJson, json, bind_eq_ok, pure_eq_ok]
    exact ⟨inner, henter, _, jsonFields_ofFields fields inner hinner, (), rfl, rfl⟩

/-- Items are read one after the other. -/
theorem jsonItems_ofItems : ∀ (vs : List Json) (p : Place) (i : Nat),
    Json.depthItems vs ≤ p.levels →
      jsonItems p i (Document.ofItems vs) = .ok (Json.canonicalItems vs)
  | [], _, _, _ => rfl
  | v :: rest, p, i, h => by
    have hhead : v.depth ≤ (p.child (.index i)).levels := Nat.le_trans (Nat.le_max_left _ _) h
    have htail : Json.depthItems rest ≤ p.levels := Nat.le_trans (Nat.le_max_right _ _) h
    simp only [Document.ofItems, jsonItems, bind_eq_ok, pure_eq_ok]
    exact ⟨_, json_ofJson v _ hhead, _, jsonItems_ofItems rest p (i + 1) htail, rfl⟩

/-- Fields are read one after the other. -/
theorem jsonFields_ofFields : ∀ (fields : List (String × Json)) (p : Place),
    Json.depthFields fields ≤ p.levels →
      jsonFields p (Document.ofFields fields) = .ok (Json.canonicalFields fields)
  | [], _, _ => rfl
  | (k, v) :: rest, p, h => by
    have hhead : v.depth ≤ (p.child (.key k)).levels := Nat.le_trans (Nat.le_max_left _ _) h
    have htail : Json.depthFields rest ≤ p.levels := Nat.le_trans (Nat.le_max_right _ _) h
    simp only [Document.ofFields, jsonFields, bind_eq_ok, pure_eq_ok]
    exact ⟨_, json_ofJson v _ hhead, _, jsonFields_ofFields rest p htail, rfl⟩

end

mutual

/-- Only the document of a value can be read. -/
theorem exists_ofJson_of_json : ∀ {d : Document} {p : Place} {v : Json}, json p d = .ok v →
    ∃ written : Json, d = .ofJson written ∧ written.depth ≤ p.levels ∧ written.canonical = v
  | .null, _, _, h => by cases h; exact ⟨.null, rfl, Nat.zero_le _, rfl⟩
  | .bool b, _, _, h => by cases h; exact ⟨.bool b, rfl, Nat.zero_le _, rfl⟩
  | .number n, _, _, h => by cases h; exact ⟨.number n, rfl, Nat.zero_le _, rfl⟩
  | .string s, _, _, h => by cases h; exact ⟨.string s, rfl, Nat.zero_le _, rfl⟩
  | .unreadable _ _, _, _, h => by cases h
  | .array ds ending, p, v, h => by
    simp only [json, bind_eq_ok, pure_eq_ok] at h
    obtain ⟨inner, henter, items, hitems, ⟨⟩, hclosed, rfl⟩ := h
    obtain rfl := Place.closeArray_eq_ok_iff.1 hclosed
    obtain ⟨written, rfl, hdepth, rfl⟩ := exists_ofItems_of_jsonItems hitems
    refine ⟨.array written, rfl, ?_, rfl⟩
    rw [Place.levels_of_enter henter]
    exact Nat.succ_le_succ hdepth
  | .object ms ending, p, v, h => by
    simp only [json, bind_eq_ok, pure_eq_ok] at h
    obtain ⟨inner, henter, fields, hfields, ⟨⟩, hclosed, rfl⟩ := h
    obtain rfl := Place.closeObject_eq_ok_iff.1 hclosed
    obtain ⟨written, rfl, hdepth, rfl⟩ := exists_ofFields_of_jsonFields hfields
    refine ⟨.object written, rfl, ?_, rfl⟩
    rw [Place.levels_of_enter henter]
    exact Nat.succ_le_succ hdepth

theorem exists_ofItems_of_jsonItems : ∀ {ds : List Document} {p : Place} {i : Nat}
    {items : List Json}, jsonItems p i ds = .ok items → ∃ written : List Json,
      ds = Document.ofItems written ∧ Json.depthItems written ≤ p.levels ∧
        Json.canonicalItems written = items
  | [], _, _, _, h => by cases h; exact ⟨[], rfl, Nat.zero_le _, rfl⟩
  | d :: rest, p, i, items, h => by
    simp only [jsonItems, bind_eq_ok, pure_eq_ok] at h
    obtain ⟨v, hv, vs, hvs, rfl⟩ := h
    obtain ⟨head, rfl, hhead, rfl⟩ := exists_ofJson_of_json hv
    obtain ⟨tail, rfl, htail, rfl⟩ := exists_ofItems_of_jsonItems hvs
    exact ⟨head :: tail, rfl, Nat.max_le.2 ⟨hhead, htail⟩, rfl⟩

theorem exists_ofFields_of_jsonFields : ∀ {ms : List (String × Document)} {p : Place}
    {fields : List (String × Json)}, jsonFields p ms = .ok fields →
      ∃ written : List (String × Json), ms = Document.ofFields written ∧
        Json.depthFields written ≤ p.levels ∧ Json.canonicalFields written = fields
  | [], _, _, h => by cases h; exact ⟨[], rfl, Nat.zero_le _, rfl⟩
  | (k, d) :: rest, p, fields, h => by
    simp only [jsonFields, bind_eq_ok, pure_eq_ok] at h
    obtain ⟨v, hv, vs, hvs, rfl⟩ := h
    obtain ⟨head, rfl, hhead, rfl⟩ := exists_ofJson_of_json hv
    obtain ⟨tail, rfl, htail, rfl⟩ := exists_ofFields_of_jsonFields hvs
    exact ⟨(k, head) :: tail, rfl, Nat.max_le.2 ⟨hhead, htail⟩, rfl⟩

end

/-- **What can be read** is the documents of values that are not nested too deep, each as the
canonical form of its value. -/
theorem json_eq_ok_iff {p : Place} {d : Document} {v : Json} :
    json p d = .ok v ↔
      ∃ written : Json, d = .ofJson written ∧ written.depth ≤ p.levels ∧ written.canonical = v := by
  constructor
  · exact exists_ofJson_of_json
  · rintro ⟨written, rfl, hdepth, rfl⟩
    exact json_ofJson written p hdepth

end Decoder

end AccessPolicy
