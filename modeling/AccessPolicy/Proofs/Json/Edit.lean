import AccessPolicy.Proofs.Dict
import AccessPolicy.Proofs.Json.Decoder

/-!
# Decoders follow edits of a document

A document may be edited in one place, and one wants to know what is decoded afterwards. An
answer for a whole decoder is put together of answers for its parts: a decoder follows an edit
if the edited document is decoded whenever the old one was, to the old value with a known effect
on it. Lists, objects, optional values and values with known fields follow an edit of their
children as soon as the decoders of the children do.

An edit may put in something that is nested more deeply. That costs levels, and so every
statement carries the number of levels that have to be left at the place where it is read.

## Main definitions

* `Document.editAt` — edits the children of a document that stand at one of some places.
* `Decoder.Follows` — a decoder follows an edit with an effect.
* `Field.Follows` — a field of a draft follows an edit with an effect on the draft.

## Main statements

* `Decoder.Follows.list`, `Decoder.Follows.dict` — arrays and objects follow their children.
* `Layout.follows_read` — a value with known fields follows an edit of one field, whether its
  keys are written or not.
-/
namespace AccessPolicy

/-! ## Edits -/

namespace Document

/-- Edits every child of a document, depending on where it stands. -/
def editChildren (edit : Segment → Document → Document) : Document → Document
  | array items ending => array (items.mapIdx fun i d => edit (.index i) d) ending
  | object members ending => object (members.map fun m => (m.1, edit (.key m.1) m.2)) ending
  | d => d

/-- Edits the children of a document that stand at one of some places. -/
def editAt (places : List Segment) (edit : Document → Document) : Document → Document :=
  editChildren fun s d => if s ∈ places then edit d else d

theorem editChildren_eq_null {edit : Segment → Document → Document} {d : Document} :
    editChildren edit d = .null ↔ d = .null := by
  cases d <;> simp [editChildren]

end Document

/-! ## Decoders -/

namespace Decoder

variable {α β : Type} {f : Decoder α} {n : Nat}

/-- At places with enough levels, whenever a value is decoded, the edited document is decoded to
that value with the effect. -/
def Follows (f : Decoder α) (n : Nat) (edit : Document → Document) (effect : α → α) : Prop :=
  ∀ ⦃p d v⦄, n ≤ p.levels → f p d = .ok v → f p (edit d) = .ok (effect v)

namespace Follows

/-- Nothing follows from no edit. -/
theorem id (f : Decoder α) (n : Nat) : f.Follows n (fun d => d) (fun v => v) := by
  intro p d v _ h
  exact h

/-- An edit that is made only under a condition has its effect only then. -/
theorem ite {edit : Document → Document} {effect : α → α} (h : f.Follows n edit effect)
    (c : Prop) [Decidable c] :
    f.Follows n (fun d => if c then edit d else d) (fun v => if c then effect v else v) := by
  by_cases hc : c
  · simpa [hc] using h
  · simpa [hc] using id f n

/-- A value that is changed after it has been decoded follows along. -/
theorem map {g : α → β} {edit : Document → Document} {effect : α → α} {effect' : β → β}
    (h : f.Follows n edit effect) (hg : ∀ v, g (effect v) = effect' (g v)) :
    Follows (fun p d => g <$> f p d) n edit effect' := by
  intro p d v hp hv
  obtain ⟨a, ha, rfl⟩ := map_eq_ok.1 hv
  exact map_eq_ok.2 ⟨effect a, h hp ha, hg a⟩

/-- Items follow edits one by one, from whatever index on they are counted. -/
theorem items {edit : Nat → Document → Document} {effect : Nat → α → α}
    (h : ∀ i, f.Follows n (edit i) (effect i)) {p : Place} (hp : n ≤ p.levels) (i : Nat)
    {ds : List Document} {vs : List α} (hvs : Decoder.items f p i ds = .ok vs) :
    Decoder.items f p i (ds.mapIdx edit) = .ok (vs.mapIdx effect) := by
  induction ds generalizing i vs edit effect with
  | nil =>
    cases hvs
    rfl
  | cons d rest ih =>
    obtain ⟨v, vs, hv, hrest, rfl⟩ := items_cons_eq_ok.1 hvs
    rw [List.mapIdx_cons, List.mapIdx_cons]
    have htail := ih (fun i => h (i + 1)) (i + 1) hrest
    exact items_cons_eq_ok.2 ⟨_, _, h 0 hp hv, htail, rfl⟩

/-- **An array follows its items**, one level further out. -/
theorem list {edit : Segment → Document → Document} {effect : Nat → α → α}
    (h : ∀ i, f.Follows n (edit (.index i)) (effect i)) :
    (Decoder.list f).Follows (n + 1) (Document.editChildren edit) (·.mapIdx effect) := by
  intro p d vs hp hvs
  obtain ⟨ds, ending, inner, rfl, henter, hitems, hclose⟩ := list_eq_ok_iff.1 hvs
  have hinner : n ≤ inner.levels := by
    have := Place.levels_of_enter henter
    omega
  exact list_eq_ok_iff.2 ⟨_, ending, inner, rfl, henter, items h hinner 0 hitems, hclose⟩

/-- Members follow edits one by one. -/
theorem members {edit : String → Document → Document} {effect : String → α → α}
    (h : ∀ k, f.Follows n (edit k) (effect k)) {p : Place} (hp : n ≤ p.levels)
    {ds : List (String × Document)} {vs : List (String × α)}
    (hvs : Decoder.members f p ds = .ok vs) :
    Decoder.members f p (ds.map fun m => (m.1, edit m.1 m.2)) =
      .ok (vs.map fun e => (e.1, effect e.1 e.2)) := by
  induction ds generalizing vs with
  | nil =>
    cases hvs
    rfl
  | cons m rest ih =>
    obtain ⟨k, d⟩ := m
    obtain ⟨v, vs, hv, hrest, rfl⟩ := members_cons_eq_ok.1 hvs
    rw [List.map_cons, List.map_cons]
    exact members_cons_eq_ok.2 ⟨_, _, h k hp hv, ih hrest, rfl⟩

/-- **An object follows its members**, one level further out. Of a repeated key every value is
edited, so also the last one, which counts. -/
theorem dict {edit : Segment → Document → Document} {effect : String → α → α}
    (h : ∀ k, f.Follows n (edit (.key k)) (effect k)) :
    (Decoder.dict f).Follows (n + 1) (Document.editChildren edit) (·.map effect) := by
  intro p d v hp hv
  obtain ⟨ds, ending, inner, vs, rfl, henter, hmembers, hclose, rfl⟩ := dict_eq_ok_iff.1 hv
  have hinner : n ≤ inner.levels := by
    have := Place.levels_of_enter henter
    omega
  have hmembers' := members h hinner hmembers
  exact dict_eq_ok_iff.2 ⟨_, ending, inner, _, rfl, henter, hmembers', hclose,
    Dict.ofList_map effect vs⟩

/-- An array follows an edit of one item. -/
theorem list_editAt {edit : Document → Document} {effect : α → α} (h : f.Follows n edit effect)
    (i : Nat) :
    (Decoder.list f).Follows (n + 1) (Document.editAt [.index i] edit) (·.modify i effect) := by
  have hitems : (Decoder.list f).Follows (n + 1) (Document.editAt [.index i] edit)
      (·.mapIdx fun j v => if j = i then effect v else v) := by
    refine list ?_
    intro j
    simpa using h.ite (j = i)
  have hmodify : ∀ vs : List α,
      vs.modify i effect = vs.mapIdx fun j v => if j = i then effect v else v := by
    intro vs
    apply List.ext_getElem?
    intro j
    rw [List.getElem?_modify, List.getElem?_mapIdx]
    simp only [eq_comm, Option.map_eq_map]
  intro p d vs hp hvs
  simpa only [hmodify] using hitems hp hvs

/-- An object follows an edit of the members under one key. -/
theorem dict_editAt {edit : Document → Document} {effect : α → α} (h : f.Follows n edit effect)
    (k : String) :
    (Decoder.dict f).Follows (n + 1) (Document.editAt [.key k] edit)
      (·.map fun k' v => if k' = k then effect v else v) := by
  refine dict ?_
  intro k'
  simpa using h.ite (k' = k)

/-- A value that may be absent follows an edit that does not make it absent. -/
theorem optional {edit : Document → Document} {effect : α → α} (h : f.Follows n edit effect)
    (hnull : ∀ d, edit d = .null ↔ d = .null) :
    (Decoder.optional f).Follows n edit (Option.map effect) := by
  intro p d v hp hv
  by_cases hd : d = .null
  · subst hd
    rw [(hnull .null).2 rfl]
    cases hv
    rfl
  · rw [optional_of_ne_null hd, map_eq_ok] at hv
    obtain ⟨a, ha, rfl⟩ := hv
    rw [optional_of_ne_null (mt (hnull d).1 hd), map_eq_ok]
    exact ⟨effect a, h hp ha, rfl⟩

/-- A value with a default follows an edit that does not make it absent and has no effect on
the default. -/
theorem orDefault {default : α} {edit : Document → Document} {effect : α → α}
    (h : f.Follows n edit effect) (hnull : ∀ d, edit d = .null ↔ d = .null)
    (hdefault : effect default = default) :
    (Decoder.orDefault default f).Follows n edit effect := by
  intro p d v hp hv
  by_cases hd : d = .null
  · subst hd
    rw [(hnull .null).2 rfl]
    cases hv
    rw [hdefault]
    rfl
  · rw [orDefault_of_ne_null hd] at hv
    rw [orDefault_of_ne_null (mt (hnull d).1 hd)]
    exact h hp hv

end Follows

end Decoder

/-! ## Fields of drafts -/

variable {σ : Type}

/-- A field follows an edit of its document: reading the edited document into a draft that
already shows the effect gives the draft that shows it, and which fields are set is not
affected. -/
structure Field.Follows (fld : Field σ) (n : Nat) (edit : Document → Document)
    (effect : σ → σ) : Prop where
  /-- The effect sets no field and takes none back. -/
  isSet : ∀ draft, fld.isSet (effect draft) = fld.isSet draft
  /-- The effect commutes with reading. -/
  read : ∀ ⦃draft p d next⦄, n ≤ p.levels → fld.read draft p d = .ok next →
    fld.read (effect draft) p (edit d) = .ok (effect next)

/-- A field that is read by a decoder into a slot follows what the decoder follows. -/
theorem Field.follows_of {α : Type} {name : String} {get : σ → Option α} {set : σ → α → σ}
    {f : Decoder α} {n : Nat} {edit : Document → Document} {effect : α → α} {effect' : σ → σ}
    (hf : f.Follows n edit effect)
    (hget : ∀ draft, (get (effect' draft)).isSome = (get draft).isSome)
    (hset : ∀ draft v, set (effect' draft) (effect v) = effect' (set draft v)) :
    (Field.of name get set f).Follows n edit effect' where
  isSet := hget
  read := by
    intro draft p d next hp hnext
    obtain ⟨v, hv, rfl⟩ := Decoder.map_eq_ok.1 hnext
    exact Decoder.map_eq_ok.2 ⟨effect v, hf hp hv, hset draft v⟩

namespace Layout

variable {l : Layout σ} {n : Nat} {effect : σ → σ}

/-- Members that are read into a draft follow edits one by one. A member under an unknown key
is passed over, and so it has to stay as it is. -/
theorem readMembers_editChildren {edit : Segment → Document → Document}
    (hknown : ∀ k fld, l.find? k = some fld → fld.Follows n (edit (.key k)) effect)
    (hunknown : ∀ k d, l.find? k = none → edit (.key k) d = d) {p inner : Place}
    (hinner : n ≤ inner.levels) {draft final : σ} {ds : List (String × Document)}
    (h : l.readMembers p inner draft ds = .ok final) :
    l.readMembers p inner (effect draft) (ds.map fun m => (m.1, edit (.key m.1) m.2)) =
      .ok (effect final) := by
  induction ds generalizing draft with
  | nil =>
    cases h
    rfl
  | cons m rest ih =>
    obtain ⟨k, d⟩ := m
    simp only [List.map_cons, readMembers] at h ⊢
    cases hk : l.find? k with
    | none =>
      rw [hunknown k d hk]
      simp only [hk] at h ⊢
      cases hd : d.passing with
      | none =>
        simp only [hd] at h ⊢
        exact ih h
      | some flaw =>
        simp only [hd] at h
        exact absurd h (Place.fail_ne_ok _ _ _)
    | some fld =>
      have hfld := hknown k fld hk
      simp only [hk, hfld.isSet] at h ⊢
      by_cases hset : fld.isSet draft = true
      · rw [if_pos hset] at h
        exact absurd h (Place.fail_ne_ok _ _ _)
      · rw [if_neg hset, Decoder.bind_eq_ok] at h
        obtain ⟨next, hnext, hrest⟩ := h
        rw [if_neg hset, Decoder.bind_eq_ok]
        exact ⟨effect next, hfld.read hinner hnext, ih hrest⟩

/-- Items that are read into a draft follow edits one by one. -/
theorem readItems_editChildren {p inner : Place} {ending : ArrayEnding}
    (hinner : n ≤ inner.levels) :
    ∀ (l : Layout σ) (ds : List Document) (edit : Nat → Document → Document) (i : Nat)
      {draft final : σ},
      (∀ (j : Nat) (fld : Field σ), l[j]? = some fld → fld.Follows n (edit j) effect) →
      readItems p inner ending i draft l ds = .ok final →
      readItems p inner ending i (effect draft) l (ds.mapIdx edit) = .ok (effect final)
  | [], [], _, _, _, _, _, h => by
    cases ending with
    | noItem flaw => exact absurd h (Place.fail_ne_ok _ _ _)
    | _ =>
      simp only [readItems, Decoder.bind_eq_ok, Decoder.pure_eq_ok, List.mapIdx_nil] at h ⊢
      obtain ⟨u, hclose, rfl⟩ := h
      exact ⟨u, hclose, rfl⟩
  | [], _ :: _, _, _, _, _, _, h => absurd h (Place.fail_ne_ok _ _ _)
  | _ :: _, [], _, _, _, _, _, h => by
    simp only [readItems, Decoder.bind_eq_ok, Decoder.pure_eq_ok, List.mapIdx_nil] at h ⊢
    obtain ⟨u, hclose, rfl⟩ := h
    exact ⟨u, hclose, rfl⟩
  | fld :: l, d :: ds, edit, i, draft, final, hfollows, h => by
    rw [List.mapIdx_cons]
    simp only [readItems, Decoder.bind_eq_ok] at h ⊢
    obtain ⟨next, hnext, hrest⟩ := h
    have hhead : fld.Follows n (edit 0) effect := hfollows 0 fld rfl
    have htail := readItems_editChildren hinner l ds (fun j => edit (j + 1)) (i + 1)
      (fun j fld hj => hfollows (j + 1) fld hj) hrest
    exact ⟨effect next, hhead.read hinner hnext, htail⟩

/-- **A value with known fields follows its fields**, one level further out, whether its keys
are written or the fields stand in their order. -/
theorem follows_read {edit : Segment → Document → Document} {blank : σ}
    (hknown : ∀ k fld, l.find? k = some fld → fld.Follows n (edit (.key k)) effect)
    (hunknown : ∀ k d, l.find? k = none → edit (.key k) d = d)
    (hindex : ∀ (i : Nat) (fld : Field σ), l[i]? = some fld →
      fld.Follows n (edit (.index i)) effect)
    (hblank : effect blank = blank) :
    (l.read blank).Follows (n + 1) (Document.editChildren edit) effect := by
  intro p d final hp h
  cases d with
  | object ds ending =>
    simp only [read, Document.editChildren, Decoder.bind_eq_ok, Decoder.pure_eq_ok] at h ⊢
    obtain ⟨inner, henter, draft, hmembers, u, hclose, rfl⟩ := h
    have hinner : n ≤ inner.levels := by
      have := Place.levels_of_enter henter
      omega
    have hmembers' := readMembers_editChildren hknown hunknown hinner hmembers
    rw [hblank] at hmembers'
    refine ⟨inner, henter, effect draft, hmembers', u, ?_, rfl⟩
    -- How an object ends depends on the draft only through the fields that are set.
    rw [← hclose]
    cases ending with
    | noColon k flaw =>
      simp only [closeObject]
      cases hk : l.find? k with
      | none => rfl
      | some fld => simp [(hknown k fld hk).isSet]
    | _ => rfl
  | array ds ending =>
    simp only [read, Document.editChildren, Decoder.bind_eq_ok] at h ⊢
    obtain ⟨inner, henter, hitems⟩ := h
    have hinner : n ≤ inner.levels := by
      have := Place.levels_of_enter henter
      omega
    have hitems' := readItems_editChildren hinner l ds (fun i => edit (.index i)) 0 hindex hitems
    rw [hblank] at hitems'
    exact ⟨inner, henter, hitems'⟩
  | _ => simp [read] at h

/-- **An edit of one field** is followed if that field follows it and no other field notices its
effect. The field stands under its name or, where no keys are written, at its position. -/
theorem follows_read_editAt {name : String} {i : Nat} {edit : Document → Document} {blank : σ}
    (hnodup : (l.map Field.name).Nodup) (hname : (l.map Field.name)[i]? = some name)
    (hfield : ∀ fld ∈ l, fld.name = name → fld.Follows n edit effect)
    (hother : ∀ fld ∈ l, fld.name ≠ name → fld.Follows n (fun d => d) effect)
    (hblank : effect blank = blank) :
    (l.read blank).Follows (n + 1) (Document.editAt [.key name, .index i] edit) effect := by
  refine follows_read ?_ ?_ ?_ hblank
  · intro k fld hk
    obtain ⟨hmem, hkey⟩ := find?_eq_some hk
    by_cases hkn : k = name
    · simpa [hkn] using hfield fld hmem (hkey.trans hkn)
    · simpa [hkn] using hother fld hmem (hkey ▸ hkn)
  · intro k d hk
    have hkn : k ≠ name := by
      intro heq
      obtain ⟨fld, hmem, hfld⟩ := List.mem_map.1 (List.mem_of_getElem? hname)
      have hnot := List.find?_eq_none.1 hk fld hmem
      exact hnot (by simpa [heq] using hfld)
    simp [hkn]
  · intro j fld hj
    have hmem : fld ∈ l := List.mem_of_getElem? hj
    have hnames : (l.map Field.name)[j]? = some fld.name := by
      rw [List.getElem?_map, hj]
      rfl
    by_cases hji : j = i
    · subst hji
      have hkey : fld.name = name := Option.some.inj (hnames.symm.trans hname)
      simpa using hfield fld hmem hkey
    · have hkey : fld.name ≠ name := by
        intro heq
        rw [heq, ← hname] at hnames
        have hlt : j < (l.map Field.name).length :=
          (List.getElem?_eq_some_iff.1 (hnames.trans hname)).1
        exact hji ((List.getElem?_inj hlt hnodup).1 hnames)
      simpa [hji] using hother fld hmem hkey

end Layout

end AccessPolicy
