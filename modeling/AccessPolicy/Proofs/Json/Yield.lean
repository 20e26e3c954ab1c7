import AccessPolicy.Proofs.Json.Canonical

/-!
# What decoders give

A value that has been decoded has a form that not every value of its type has: objects list their
keys in ascending order, and whatever a decoder makes of what it reads shows in all its results.
Such a property of results is proved for a whole decoder from the same property of its parts, and
so without looking at any document.

A value with known fields is put together in a draft, field by field, whether its keys are written
or not. What holds of the empty draft and is kept by every field holds of the draft in the end.

## Main definitions

* `Json.IsCanonical` — reading a value again does not change it.
* `Decoder.Yields` — every value that a decoder gives has a property.
* `Field.Keeps` — reading a field keeps a property of drafts.

## Main statements

* `Decoder.yields_json` — decoded values are canonical.
* `Decoder.Yields.list`, `Decoder.Yields.dict` — arrays and objects of what their parts give.
* `Layout.yields_read` — a value with known fields has what all its fields keep.
-/
namespace AccessPolicy

/-! ## Canonical values -/

namespace Json

/-- Reading the value again does not change it. -/
def IsCanonical (v : Json) : Prop := v.canonical = v

theorem canonicalItems_eq_self {items : List Json} (h : ∀ v ∈ items, v.IsCanonical) :
    canonicalItems items = items := by
  induction items with
  | nil => rfl
  | cons v rest ih =>
    rw [canonicalItems, h v List.mem_cons_self, ih fun w hw => h w (List.mem_cons_of_mem v hw)]

theorem canonicalFields_eq_self {fields : List (String × Json)}
    (h : ∀ e ∈ fields, e.2.IsCanonical) : canonicalFields fields = fields := by
  induction fields with
  | nil => rfl
  | cons e rest ih =>
    rw [canonicalFields, h e List.mem_cons_self, ih fun f hf => h f (List.mem_cons_of_mem e hf)]

/-- An object is canonical if its values are and its keys ascend. -/
theorem isCanonical_ofDict {d : Dict Json} (h : ∀ k v, d.get? k = some v → v.IsCanonical) :
    (ofDict d).IsCanonical := by
  have hfields : canonicalFields d.entries = d.entries := by
    refine canonicalFields_eq_self ?_
    rintro ⟨k, v⟩ he
    exact h k v (Dict.get?_eq_some_iff.2 he)
  rw [IsCanonical, ofDict, canonical, hfields, ofFields, Dict.ofList_entries]
  rfl

end Json

/-! ## Decoders -/

namespace Decoder

variable {α β : Type} {f : Decoder α} {P : α → Prop} {Q : β → Prop}

/-- Every value that the decoder gives has the property. -/
def Yields (f : Decoder α) (P : α → Prop) : Prop :=
  ∀ ⦃p d v⦄, f p d = .ok v → P v

/-- Nothing is said of the values. -/
theorem yields_true : f.Yields fun _ => True := fun _ _ _ _ => trivial

namespace Yields

/-- A value that is changed after it has been decoded has what the change brings about. -/
theorem map {g : α → β} (h : f.Yields P) (hg : ∀ v, P v → Q (g v)) :
    Yields (fun p d => g <$> f p d) Q := by
  intro p d v hv
  obtain ⟨a, ha, rfl⟩ := map_eq_ok.1 hv
  exact hg a (h ha)

theorem items (h : f.Yields P) {p : Place} {i : Nat} {ds : List Document} {vs : List α}
    (hvs : Decoder.items f p i ds = .ok vs) : ∀ v ∈ vs, P v := by
  induction ds generalizing i vs with
  | nil =>
    cases hvs
    simp
  | cons d rest ih =>
    obtain ⟨v, vs, hv, hrest, rfl⟩ := items_cons_eq_ok.1 hvs
    exact List.forall_mem_cons.2 ⟨h hv, ih hrest⟩

/-- **The items of an array** have what their decoder gives. -/
theorem list (h : f.Yields P) : (Decoder.list f).Yields fun vs => ∀ v ∈ vs, P v := by
  intro p d vs hvs
  obtain ⟨ds, ending, inner, -, -, hitems, -⟩ := list_eq_ok_iff.1 hvs
  exact h.items hitems

theorem members (h : f.Yields P) {p : Place} {ds : List (String × Document)}
    {vs : List (String × α)} (hvs : Decoder.members f p ds = .ok vs) : ∀ e ∈ vs, P e.2 := by
  induction ds generalizing vs with
  | nil =>
    cases hvs
    simp
  | cons m rest ih =>
    obtain ⟨v, vs, hv, hrest, rfl⟩ := members_cons_eq_ok.1 hvs
    exact List.forall_mem_cons.2 ⟨h hv, ih hrest⟩

/-- **The values of an object** have what their decoder gives. -/
theorem dict (h : f.Yields P) :
    (Decoder.dict f).Yields fun d => ∀ k v, d.get? k = some v → P v := by
  intro p d v hv
  obtain ⟨ds, ending, inner, vs, -, -, hmembers, -, rfl⟩ := dict_eq_ok_iff.1 hv
  intro k a ha
  exact h.members hmembers (k, a) (Dict.mem_of_get?_ofList ha)

/-- A value that is not absent has what its decoder gives. -/
theorem optional (h : f.Yields P) : (Decoder.optional f).Yields fun o => ∀ v, o = some v → P v := by
  intro p d o ho
  by_cases hd : d = .null
  · subst hd
    cases ho
    simp
  · rw [optional_of_ne_null hd, map_eq_ok] at ho
    obtain ⟨a, ha, rfl⟩ := ho
    intro v hv
    cases hv
    exact h ha

/-- A value with a default has what its decoder gives, if the default has it. -/
theorem orDefault {default : α} (h : f.Yields P) (hdefault : P default) :
    (Decoder.orDefault default f).Yields P := by
  intro p d v hv
  by_cases hd : d = .null
  · subst hd
    cases hv
    exact hdefault
  · rw [orDefault_of_ne_null hd] at hv
    exact h hv

end Yields

mutual

theorem isCanonical_of_json : ∀ {d : Document} {p : Place} {v : Json}, json p d = .ok v →
    v.IsCanonical
  | .null, _, _, h => by cases h; rfl
  | .bool _, _, _, h => by cases h; rfl
  | .number _, _, _, h => by cases h; rfl
  | .string _, _, _, h => by cases h; rfl
  | .unreadable _ _, _, _, h => by cases h
  | .array ds ending, p, v, h => by
    simp only [json, bind_eq_ok, pure_eq_ok] at h
    obtain ⟨inner, -, items, hitems, u, -, rfl⟩ := h
    exact congrArg Json.array (Json.canonicalItems_eq_self (isCanonical_of_jsonItems hitems))
  | .object ds ending, p, v, h => by
    simp only [json, bind_eq_ok, pure_eq_ok] at h
    obtain ⟨inner, -, fields, hfields, u, -, rfl⟩ := h
    refine Json.isCanonical_ofDict ?_
    intro k v hv
    exact isCanonical_of_jsonFields hfields (k, v) (Dict.mem_of_get?_ofList hv)

theorem isCanonical_of_jsonItems : ∀ {ds : List Document} {p : Place} {i : Nat} {items : List Json},
    jsonItems p i ds = .ok items → ∀ v ∈ items, v.IsCanonical
  | [], _, _, _, h => by cases h; simp
  | d :: rest, p, i, items, h => by
    simp only [jsonItems, bind_eq_ok, pure_eq_ok] at h
    obtain ⟨v, hv, vs, hvs, rfl⟩ := h
    exact List.forall_mem_cons.2 ⟨isCanonical_of_json hv, isCanonical_of_jsonItems hvs⟩

theorem isCanonical_of_jsonFields : ∀ {ds : List (String × Document)} {p : Place}
    {fields : List (String × Json)}, jsonFields p ds = .ok fields → ∀ e ∈ fields, e.2.IsCanonical
  | [], _, _, h => by cases h; simp
  | (k, d) :: rest, p, fields, h => by
    simp only [jsonFields, bind_eq_ok, pure_eq_ok] at h
    obtain ⟨v, hv, vs, hvs, rfl⟩ := h
    exact List.forall_mem_cons.2 ⟨isCanonical_of_json hv, isCanonical_of_jsonFields hvs⟩

end

/-- **Decoded values are canonical.** -/
theorem yields_json : Yields json Json.IsCanonical := fun _ _ _ h => isCanonical_of_json h

end Decoder

/-! ## Values with known fields -/

variable {σ : Type} {I : σ → Prop}

/-- Reading the field keeps a property of drafts. -/
def Field.Keeps (fld : Field σ) (I : σ → Prop) : Prop :=
  ∀ ⦃draft p d next⦄, I draft → fld.read draft p d = .ok next → I next

/-- A field that is read by a decoder into a slot keeps what putting any of its values there
keeps. -/
theorem Field.keeps_of {α : Type} {name : String} {get : σ → Option α} {set : σ → α → σ}
    {f : Decoder α} {P : α → Prop} (hf : f.Yields P)
    (hset : ∀ draft v, I draft → P v → I (set draft v)) : (Field.of name get set f).Keeps I := by
  intro draft p d next hdraft hnext
  obtain ⟨v, hv, rfl⟩ := Decoder.map_eq_ok.1 hnext
  exact hset draft v hdraft (hf hv)

/-- A field keeps what does not look at its slot. -/
theorem Field.keeps_other {α : Type} {name : String} {get : σ → Option α} {set : σ → α → σ}
    {f : Decoder α} (hset : ∀ draft v, I draft → I (set draft v)) :
    (Field.of name get set f).Keeps I :=
  keeps_of Decoder.yields_true fun draft v h _ => hset draft v h

namespace Layout

variable {l : Layout σ}

theorem keeps_readMembers (hkeeps : ∀ fld ∈ l, fld.Keeps I) {p inner : Place} {draft final : σ}
    {ds : List (String × Document)} (hdraft : I draft)
    (h : l.readMembers p inner draft ds = .ok final) : I final := by
  induction ds generalizing draft with
  | nil =>
    cases h
    exact hdraft
  | cons m rest ih =>
    obtain ⟨k, d⟩ := m
    rw [readMembers] at h
    cases hk : l.find? k with
    | none =>
      simp only [hk] at h
      split at h
      · exact ih hdraft h
      · exact absurd h (Place.fail_ne_ok _ _ _)
    | some fld =>
      simp only [hk] at h
      split at h
      · exact absurd h (Place.fail_ne_ok _ _ _)
      · obtain ⟨next, hnext, hrest⟩ := Decoder.bind_eq_ok.1 h
        exact ih (hkeeps fld (List.mem_of_find?_eq_some hk) hdraft hnext) hrest

theorem keeps_readItems {p inner : Place} {ending : ArrayEnding} :
    ∀ (l : Layout σ) (ds : List Document) {i : Nat} {draft final : σ},
      (∀ fld ∈ l, fld.Keeps I) → I draft →
      readItems p inner ending i draft l ds = .ok final → I final
  | [], [], _, _, _, _, hdraft, h => by
    cases ending with
    | noItem flaw => exact absurd h (Place.fail_ne_ok _ _ _)
    | _ =>
      simp only [readItems, Decoder.bind_eq_ok, Decoder.pure_eq_ok] at h
      obtain ⟨u, -, rfl⟩ := h
      exact hdraft
  | [], _ :: _, _, _, _, _, _, h => absurd h (Place.fail_ne_ok _ _ _)
  | _ :: _, [], _, _, _, _, hdraft, h => by
    simp only [readItems, Decoder.bind_eq_ok, Decoder.pure_eq_ok] at h
    obtain ⟨u, -, rfl⟩ := h
    exact hdraft
  | fld :: l, d :: ds, i, draft, final, hkeeps, hdraft, h => by
    obtain ⟨hfld, hl⟩ := List.forall_mem_cons.1 hkeeps
    simp only [readItems, Decoder.bind_eq_ok] at h
    obtain ⟨next, hnext, hrest⟩ := h
    exact keeps_readItems l ds hl (hfld hdraft hnext) hrest

/-- **A value with known fields** has what the empty draft has and every field keeps, whether its
keys are written or not. -/
theorem yields_read {blank : σ} (hblank : I blank) (hkeeps : ∀ fld ∈ l, fld.Keeps I) :
    (l.read blank).Yields I := by
  intro p d final h
  cases d with
  | object ds ending =>
    simp only [read, Decoder.bind_eq_ok, Decoder.pure_eq_ok] at h
    obtain ⟨inner, -, draft, hmembers, u, -, rfl⟩ := h
    exact keeps_readMembers hkeeps hblank hmembers
  | array ds ending =>
    simp only [read, Decoder.bind_eq_ok] at h
    obtain ⟨inner, -, hitems⟩ := h
    exact keeps_readItems l ds hkeeps hblank hitems
  | _ => simp [read] at h

end Layout

end AccessPolicy
