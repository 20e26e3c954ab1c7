import AccessPolicy.Proofs.Json.FirstValue
import AccessPolicy.Snapshot

/-!
# Text behind a snapshot

A principal and records are loaded from a value at the start of a text. That value is complete: it
may be unfinished or malformed nowhere, not even in a place that is passed over. But nothing checks
that the text ends with it. Whatever stands behind it, the same is loaded, so the text of two
principals is loaded as the first one.

That a loaded value is complete holds for every decoder that never takes a value out of a document
with a flaw, and for a decoder put together from others that follows from its parts.

## Main definitions

* `Decoder.Flawless` — a decoder that never takes a value out of a document with a flaw.
* `Snapshot.LoadsFirst` — what is loaded is decided by a value at the start of the text.

## Main statements

* `Layout.flawless_read` — a value with known fields is read from documents without flaws, if its
  fields are.
* `Snapshot.decode_loadsFirst` — snapshots are loaded from the first value in their text.
-/
namespace AccessPolicy

/-! ## Decoders -/

namespace Decoder

variable {α β : Type} {f : Decoder α}

/-- A document that the decoder takes a value out of has no flaw. -/
def Flawless (f : Decoder α) : Prop := ∀ ⦃p d v⦄, f p d = .ok v → d.passing = none

namespace Flawless

theorem map {g : α → β} (h : f.Flawless) : Flawless (fun p d => g <$> f p d) := by
  intro p d v hv
  obtain ⟨a, ha, -⟩ := map_eq_ok.1 hv
  exact h ha

theorem bind {g : Place → α → Except DecodeError β} (h : f.Flawless) :
    Flawless (fun p d => f p d >>= g p) := by
  intro p d v hv
  obtain ⟨a, ha, -⟩ := bind_eq_ok.1 hv
  exact h ha

theorem optional (h : f.Flawless) : (Decoder.optional f).Flawless := by
  intro p d v hv
  by_cases hd : d = .null
  · rw [hd]
    rfl
  · rw [optional_of_ne_null hd, map_eq_ok] at hv
    obtain ⟨a, ha, -⟩ := hv
    exact h ha

theorem orDefault {default : α} (h : f.Flawless) : (Decoder.orDefault default f).Flawless := by
  intro p d v hv
  by_cases hd : d = .null
  · rw [hd]
    rfl
  · rw [orDefault_of_ne_null hd] at hv
    exact h hv

theorem items (h : f.Flawless) {p : Place} {i : Nat} {ds : List Document} {vs : List α}
    (hvs : Decoder.items f p i ds = .ok vs) : ∀ d ∈ ds, d.passing = none := by
  induction ds generalizing i vs with
  | nil => exact nofun
  | cons d rest ih =>
    obtain ⟨v, vs, hv, hrest, -⟩ := items_cons_eq_ok.1 hvs
    exact List.forall_mem_cons.2 ⟨h hv, ih hrest⟩

theorem list (h : f.Flawless) : (Decoder.list f).Flawless := by
  intro p d vs hvs
  obtain ⟨ds, ending, inner, rfl, -, hitems, hclosed⟩ := list_eq_ok_iff.1 hvs
  obtain rfl := Place.closeArray_eq_ok_iff.1 hclosed
  exact Document.passing_array_eq_none_iff.2 ⟨h.items hitems, rfl⟩

theorem members (h : f.Flawless) {p : Place} {ms : List (String × Document)}
    {vs : List (String × α)} (hvs : Decoder.members f p ms = .ok vs) :
    ∀ m ∈ ms, m.2.passing = none := by
  induction ms generalizing vs with
  | nil => exact nofun
  | cons m rest ih =>
    obtain ⟨v, vs, hv, hrest, -⟩ := members_cons_eq_ok.1 hvs
    exact List.forall_mem_cons.2 ⟨h hv, ih hrest⟩

theorem dict (h : f.Flawless) : (Decoder.dict f).Flawless := by
  intro p d v hv
  obtain ⟨ms, ending, inner, vs, rfl, -, hmembers, hclosed, -⟩ := dict_eq_ok_iff.1 hv
  obtain rfl := Place.closeObject_eq_ok_iff.1 hclosed
  exact Document.passing_object_eq_none_iff.2 ⟨h.members hmembers, rfl⟩

end Flawless

theorem flawless_text : text.Flawless := by
  intro p d v hv
  cases d with
  | string s => rfl
  | _ => simp [text] at hv

theorem flawless_bool : bool.Flawless := by
  intro p d v hv
  cases d with
  | bool b => rfl
  | _ => simp [bool] at hv

mutual

theorem passing_of_json : ∀ {d : Document} {p : Place} {v : Json}, json p d = .ok v →
    d.passing = none
  | .null, _, _, _ => rfl
  | .bool _, _, _, _ => rfl
  | .number _, _, _, _ => rfl
  | .string _, _, _, _ => rfl
  | .unreadable _ _, _, _, h => by cases h
  | .array ds ending, p, v, h => by
    simp only [json, bind_eq_ok, pure_eq_ok] at h
    obtain ⟨inner, -, items, hitems, ⟨⟩, hclosed, -⟩ := h
    obtain rfl := Place.closeArray_eq_ok_iff.1 hclosed
    exact Document.passing_array_eq_none_iff.2 ⟨passing_of_jsonItems hitems, rfl⟩
  | .object ms ending, p, v, h => by
    simp only [json, bind_eq_ok, pure_eq_ok] at h
    obtain ⟨inner, -, fields, hfields, ⟨⟩, hclosed, -⟩ := h
    obtain rfl := Place.closeObject_eq_ok_iff.1 hclosed
    exact Document.passing_object_eq_none_iff.2 ⟨passing_of_jsonFields hfields, rfl⟩

theorem passing_of_jsonItems : ∀ {ds : List Document} {p : Place} {i : Nat} {items : List Json},
    jsonItems p i ds = .ok items → ∀ d ∈ ds, d.passing = none
  | [], _, _, _, _ => nofun
  | d :: rest, p, i, items, h => by
    simp only [jsonItems, bind_eq_ok, pure_eq_ok] at h
    obtain ⟨v, hv, vs, hvs, -⟩ := h
    exact List.forall_mem_cons.2 ⟨passing_of_json hv, passing_of_jsonItems hvs⟩

theorem passing_of_jsonFields : ∀ {ms : List (String × Document)} {p : Place}
    {fields : List (String × Json)}, jsonFields p ms = .ok fields → ∀ m ∈ ms, m.2.passing = none
  | [], _, _, _ => nofun
  | (k, d) :: rest, p, fields, h => by
    simp only [jsonFields, bind_eq_ok, pure_eq_ok] at h
    obtain ⟨v, hv, vs, hvs, -⟩ := h
    exact List.forall_mem_cons.2 ⟨passing_of_json hv, passing_of_jsonFields hvs⟩

end

theorem flawless_json : Flawless json := fun _ _ _ h => passing_of_json h

end Decoder

/-! ## Values with known fields -/

variable {σ : Type}

/-- A document that the field is read from has no flaw. -/
def Field.Flawless (fld : Field σ) : Prop := ∀ draft, (fld.read draft).Flawless

theorem Field.flawless_of {α : Type} {name : String} {get : σ → Option α} {set : σ → α → σ}
    {f : Decoder α} (h : f.Flawless) : (Field.of name get set f).Flawless :=
  fun _ => h.map

namespace Layout

variable {l : Layout σ}

theorem flawless_readMembers (h : ∀ fld ∈ l, fld.Flawless) {p inner : Place} {draft final : σ}
    {ms : List (String × Document)} (hfinal : l.readMembers p inner draft ms = .ok final) :
    ∀ m ∈ ms, m.2.passing = none := by
  induction ms generalizing draft with
  | nil => exact nofun
  | cons m rest ih =>
    rw [← List.singleton_append, readMembers_append_eq_ok] at hfinal
    obtain ⟨next, hnext, hrest⟩ := hfinal
    refine List.forall_mem_cons.2 ⟨?_, ih hrest⟩
    obtain ⟨k, d⟩ := m
    cases hk : l.find? k with
    | none => exact ((readMembers_unknown hk).1 hnext).1
    | some fld => exact h fld (find?_eq_some hk).1 draft ((readMembers_known hk).1 hnext).2

theorem flawless_readItems {p inner : Place} {ending : ArrayEnding} :
    ∀ {l : Layout σ} {ds : List Document} {i : Nat} {draft final : σ}, (∀ fld ∈ l, fld.Flawless) →
      readItems p inner ending i draft l ds = .ok final →
      (∀ d ∈ ds, d.passing = none) ∧ ending = .closed
  | [], [], _, _, _, _, hfinal => ⟨nofun, (readItems_nil.1 hfinal).1⟩
  | [], _ :: _, _, _, _, _, hfinal => absurd hfinal readItems_surplus
  | _ :: _, [], _, _, _, _, hfinal => ⟨nofun, (readItems_missing.1 hfinal).1⟩
  | fld :: fs, d :: ds, _, _, _, h, hfinal => by
    obtain ⟨hfld, hfs⟩ := List.forall_mem_cons.1 h
    obtain ⟨next, hnext, hrest⟩ := readItems_cons.1 hfinal
    obtain ⟨hds, hending⟩ := flawless_readItems hfs hrest
    exact ⟨List.forall_mem_cons.2 ⟨hfld _ hnext, hds⟩, hending⟩

/-- **A value with known fields** is read from an object or an array without flaws, if its fields
are read from documents without flaws. -/
theorem flawless_read {blank : σ} (h : ∀ fld ∈ l, fld.Flawless) : (l.read blank).Flawless := by
  intro p d final hfinal
  cases d with
  | object ms ending =>
    obtain ⟨rfl, inner, -, hmembers⟩ := read_object_eq_ok_iff.1 hfinal
    exact Document.passing_object_eq_none_iff.2 ⟨flawless_readMembers h hmembers, rfl⟩
  | array ds ending =>
    simp only [Layout.read, Decoder.bind_eq_ok] at hfinal
    obtain ⟨inner, -, hitems⟩ := hfinal
    obtain ⟨hds, rfl⟩ := flawless_readItems h hitems
    exact Document.passing_array_eq_none_iff.2 ⟨hds, rfl⟩
  | _ => simp [Layout.read] at hfinal

theorem isContainer_of_read {blank final : σ} {p : Place} {d : Document}
    (h : l.read blank p d = .ok final) : d.isContainer = true := by
  cases d with
  | object ms ending => rfl
  | array ds ending => rfl
  | _ => simp [Layout.read] at h

end Layout

/-! ## Principals and records -/

namespace FieldPolicy

theorem flawless_decoder : decoder.Flawless := by
  refine (Layout.flawless_read ?_).map
  simp only [layout, List.forall_mem_cons]
  exact ⟨Field.flawless_of Decoder.flawless_text.list.optional,
    Field.flawless_of Decoder.flawless_text.list.optional, nofun⟩

end FieldPolicy

namespace Permission

theorem flawless_decoder : decoder.Flawless := by
  refine (Layout.flawless_read ?_).map
  simp only [layout, List.forall_mem_cons]
  exact ⟨Field.flawless_of Decoder.flawless_text.orDefault,
    Field.flawless_of Decoder.flawless_text.list.orDefault,
    Field.flawless_of FieldPolicy.flawless_decoder.optional,
    Field.flawless_of Decoder.flawless_json.map.dict.optional, nofun⟩

end Permission

namespace Principal

theorem flawless_decoder : decoder.Flawless := by
  refine Decoder.Flawless.bind (Layout.flawless_read ?_)
  simp only [layout, List.forall_mem_cons]
  exact ⟨Field.flawless_of Decoder.flawless_json.bind,
    Field.flawless_of Decoder.flawless_text.orDefault,
    Field.flawless_of Decoder.flawless_text.optional,
    Field.flawless_of Decoder.flawless_text.optional,
    Field.flawless_of Decoder.flawless_text.list.orDefault,
    Field.flawless_of Decoder.flawless_bool.orDefault,
    Field.flawless_of Permission.flawless_decoder.list.orDefault,
    Field.flawless_of Decoder.flawless_json.dict.orDefault, nofun⟩

theorem isContainer_of_decoder {p : Place} {d : Document} {principal : Principal}
    (h : decoder p d = .ok principal) : d.isContainer = true := by
  obtain ⟨draft, hdraft, -⟩ := Decoder.bind_eq_ok.1 h
  exact Layout.isContainer_of_read hdraft

end Principal

/-! ## Snapshots -/

namespace Snapshot

open Grammar

variable {α : Type} {f : Decoder α} {path text : String} {v : α}

theorem decode_eq_ok_iff : decode f path text = .ok v ↔ f .root (.ofText text) = .ok v := by
  rw [decode]
  cases f .root (.ofText text) <;> simp

/-- The text begins with a value, which alone decides what is loaded. -/
structure LoadsFirst (f : Decoder α) (path text : String) (v : α) (first rest : String) :
    Prop where
  /-- The text is the first value together with the rest. -/
  text_eq : text = first ++ rest
  /-- The first value is complete, with blanks around it. -/
  isText : IsText first.toList
  /-- The same is loaded whatever stands behind the first value. -/
  loads : ∀ more, decode f path (first ++ more) = .ok v
  /-- The whole text is a value exactly if the rest is blank. -/
  isText_iff : IsText text.toList ↔ ∀ c ∈ rest.toList, Token.isBlank c = true

/-- What is taken out of arrays and objects without flaws is decided by the first value. -/
theorem exists_loadsFirst (hflawless : f.Flawless)
    (hcontainer : ∀ p d v, f p d = .ok v → d.isContainer = true)
    (h : decode f path text = .ok v) : ∃ first rest, LoadsFirst f path text v first rest := by
  rw [decode_eq_ok_iff] at h
  obtain ⟨first, rest, htext, hfirst⟩ :=
    Document.exists_isClosedText (hflawless h) (hcontainer _ _ _ h)
  obtain ⟨d, hd⟩ := hfirst.exists_ofTokens
  have hsplit : text = String.ofList first ++ String.ofList rest := by
    rw [← String.ofList_append, ← htext, String.ofList_toList]
  have hdocument : ∀ more, Document.ofText (String.ofList first ++ more) = d := by
    intro more
    rw [Document.ofText, String.toList_append, String.toList_ofList, hd]
  refine ⟨String.ofList first, String.ofList rest, hsplit, ?_, ?_, ?_⟩
  · rw [String.toList_ofList]
    exact hfirst.isText
  · intro more
    rw [decode_eq_ok_iff, hdocument, ← hdocument, ← hsplit, h]
  · rw [htext, String.toList_ofList, hfirst.isText_append_iff]

theorem flawless_recordsDecoder : recordsDecoder.Flawless := Decoder.flawless_json.bind

/-- Records are read from an array or an object. -/
theorem isContainer_of_recordsDecoder {p : Place} {d : Document} {records : List Record}
    (h : recordsDecoder p d = .ok records) : d.isContainer = true := by
  obtain ⟨v, hv, hrecords⟩ := Decoder.bind_eq_ok.1 h
  cases d with
  | array ds ending => rfl
  | object ms ending => rfl
  | unreadable reading passing => cases hv
  | _ =>
    cases hv
    cases hrecords

/-- **A snapshot is loaded from the first value in its text.** If a principal or records are
loaded, then the text begins with a complete value. What stands behind it is never looked at: it
could be anything, and the text is a value as a whole only if it is blank. -/
theorem decode_loadsFirst (path text : String) :
    (∀ principal, decode Principal.decoder path text = .ok principal →
      ∃ first rest, LoadsFirst Principal.decoder path text principal first rest) ∧
    ∀ records, decode recordsDecoder path text = .ok records →
      ∃ first rest, LoadsFirst recordsDecoder path text records first rest := by
  constructor
  · intro principal h
    exact exists_loadsFirst Principal.flawless_decoder
      (fun _ _ _ => Principal.isContainer_of_decoder) h
  · intro records h
    exact exists_loadsFirst flawless_recordsDecoder (fun _ _ _ => isContainer_of_recordsDecoder) h

/-- The text of one principal. -/
def onePrincipal : String := "\x7b\"id\": \"u-1\"\x7d"

/-- The texts of two principals, one behind the other. -/
def twoPrincipals : String := onePrincipal ++ " \x7b\"id\": \"u-2\"\x7d"

theorem isClosedText_onePrincipal : IsClosedText onePrincipal.toList := by
  refine ⟨_, .object (.one .string), nofun, spells_of_match ?_⟩
  rw [Reader.Match]
  cbv

theorem decode_twoPrincipals :
    decode Principal.decoder "principal.json" twoPrincipals = .ok { id := "u-1" } := by
  have hdocument : Document.ofText twoPrincipals = .object [("id", .string "u-1")] .closed := by
    cbv
  rw [decode_eq_ok_iff, hdocument]
  rfl

/-- The text of two principals is loaded as the first one, although it is no value as a whole. -/
theorem loads_twoPrincipals :
    (∃ principal, decode Principal.decoder "principal.json" twoPrincipals = .ok principal) ∧
      ¬ IsText twoPrincipals.toList := by
  refine ⟨⟨_, decode_twoPrincipals⟩, ?_⟩
  rw [twoPrincipals, String.toList_append, isClosedText_onePrincipal.isText_append_iff]
  intro hblank
  have hbrace : Token.isBlank '\x7b' = true := hblank _ (by simp)
  cases hbrace

/-- Whatever stands in place of the second principal, the first one is loaded. -/
theorem loadsFirst_twoPrincipals :
    ∃ first rest, twoPrincipals = first ++ rest ∧ IsText first.toList ∧
      ∀ more, decode Principal.decoder "principal.json" (first ++ more) = .ok { id := "u-1" } := by
  obtain ⟨hprincipals, -⟩ := decode_loadsFirst "principal.json" twoPrincipals
  obtain ⟨first, rest, h⟩ := hprincipals { id := "u-1" } decode_twoPrincipals
  exact ⟨first, rest, h.text_eq, h.isText, h.loads⟩

end Snapshot

end AccessPolicy
