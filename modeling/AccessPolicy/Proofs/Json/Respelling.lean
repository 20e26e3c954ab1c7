import AccessPolicy.Proofs.Dict
import AccessPolicy.Proofs.Json.Decoder
import Mathlib.Data.List.Pairwise

/-!
# Decoders do not see how a document is spelled

The same data can be written in many ways. An object may list its members in any order, and an
object with known keys may also have members that nobody reads, and may write `null` for what it
leaves out. Each of these ways is a step between documents, and a decoder is shown to give the
same value on both sides of a step.

What an object with known keys is read into is a draft that every member changes. The order of
the members does not matter because two fields of a draft do not touch each other. So the member
that a step is about may be thought to be read last, and what is left to compare are two drafts
that differ in one slot.

## Main definitions

* `Document.Reorders` — some object inside a document lists its members in another order.
* `Decoder.Survives` — what a decoder gives survives the replacement of a document.
* `Field.Independent` — two fields of a draft can be read in either order.
* `Layout.Respells` — the ways of spelling an object with known keys.
* `Layout.Tolerates` — what makes a layout blind for them.

## Main statements

* `Document.passing_ofJson` — every value can be passed over.
* `Decoder.survives_json`, `Decoder.survives_dict` — values survive reordering.
* `Layout.readMembers_perm` — the order of the members of an object with known keys does not
  matter.
* `Layout.Tolerates.read` — after a respelling the finished value is the same.
-/
namespace AccessPolicy

/-! ## Steps between documents -/

/-- Some object inside a document lists its members in another order. It repeats no key, since of
a repeated key the last member counts. -/
inductive Document.Reorders : Document → Document → Prop
  /-- The document itself is the object. -/
  | permute {ms ms' : List (String × Document)} (hnodup : (ms.map Prod.fst).Nodup)
      (hperm : ms.Perm ms') : Reorders (.object ms .closed) (.object ms' .closed)
  /-- The object is inside an item of an array. -/
  | item {d d' : Document} (before after : List Document) (h : Reorders d d') :
      Reorders (.array (before ++ d :: after) .closed) (.array (before ++ d' :: after) .closed)
  /-- The object is inside a member of an object. -/
  | member {d d' : Document} (before : List (String × Document)) (k : String)
      (after : List (String × Document)) (h : Reorders d d') :
      Reorders (.object (before ++ (k, d) :: after) .closed)
        (.object (before ++ (k, d') :: after) .closed)

namespace Document

theorem Reorders.ne_null {d d' : Document} (h : d.Reorders d') : d ≠ .null ∧ d' ≠ .null := by
  cases h <;> exact ⟨nofun, nofun⟩

mutual

/-- **Every value can be passed over**, however deeply it is nested. -/
theorem passing_ofJson : ∀ v : Json, (ofJson v).passing = none
  | .null => rfl
  | .bool _ => rfl
  | .number _ => rfl
  | .string _ => rfl
  | .array items => by simp [ofJson, passing, passingItems_ofItems items, ArrayEnding.passing]
  | .object fields => by
    simp [ofJson, passing, passingMembers_ofFields fields, ObjectEnding.passing]

theorem passingItems_ofItems : ∀ items : List Json, passingItems (ofItems items) = none
  | [] => rfl
  | v :: rest => by simp [ofItems, passingItems, passing_ofJson v, passingItems_ofItems rest]

theorem passingMembers_ofFields : ∀ fields : List (String × Json),
    passingMembers (ofFields fields) = none
  | [] => rfl
  | (_, v) :: rest => by
    simp [ofFields, passingMembers, passing_ofJson v, passingMembers_ofFields rest]

end

end Document

/-! ## Decoders -/

namespace Decoder

variable {α β : Type} {f : Decoder α} {d d' : Document}

/-- Whatever value is decoded is still decoded after `d` has been replaced by `d'`. -/
def Survives (f : Decoder α) (d d' : Document) : Prop :=
  ∀ ⦃p v⦄, f p d = .ok v → f p d' = .ok v

/-- Members in another order give the same entries in that order. -/
theorem members_perm {p : Place} {ms ms' : List (String × Document)} (hperm : ms.Perm ms')
    {vs : List (String × α)} (h : members f p ms = .ok vs) :
    ∃ vs', members f p ms' = .ok vs' ∧ vs.Perm vs' := by
  induction hperm generalizing vs with
  | nil => exact ⟨vs, h, .refl vs⟩
  | cons m _ ih =>
    obtain ⟨v, vs, hv, hrest, rfl⟩ := members_cons_eq_ok.1 h
    obtain ⟨vs', hvs', hp⟩ := ih hrest
    exact ⟨_, members_cons_eq_ok.2 ⟨v, vs', hv, hvs', rfl⟩, hp.cons _⟩
  | swap m m' rest =>
    obtain ⟨v, vs, hv, htail, rfl⟩ := members_cons_eq_ok.1 h
    obtain ⟨w, vs, hw, hrest, rfl⟩ := members_cons_eq_ok.1 htail
    have htail' := members_cons_eq_ok.2 ⟨v, vs, hv, hrest, rfl⟩
    exact ⟨_, members_cons_eq_ok.2 ⟨w, _, hw, htail', rfl⟩, .swap _ _ _⟩
  | trans _ _ ih ih' =>
    obtain ⟨us, hus, hp⟩ := ih h
    obtain ⟨ws, hws, hp'⟩ := ih' hus
    exact ⟨ws, hws, hp.trans hp'⟩

namespace Survives

/-- A value that is changed after it has been decoded survives too. -/
theorem map {g : α → β} (h : f.Survives d d') : Survives (fun p d => g <$> f p d) d d' := by
  intro p v hv
  obtain ⟨a, ha, rfl⟩ := map_eq_ok.1 hv
  exact map_eq_ok.2 ⟨a, h ha, rfl⟩

/-- A value that may be absent survives if it is absent on neither side. -/
theorem optional (h : f.Survives d d') (hnull : d ≠ .null ∧ d' ≠ .null) :
    (Decoder.optional f).Survives d d' := by
  intro p v hv
  rw [optional_of_ne_null hnull.1, map_eq_ok] at hv
  rw [optional_of_ne_null hnull.2, map_eq_ok]
  obtain ⟨a, ha, rfl⟩ := hv
  exact ⟨a, h ha, rfl⟩

/-- A value with a default survives if it is absent on neither side. -/
theorem orDefault {default : α} (h : f.Survives d d') (hnull : d ≠ .null ∧ d' ≠ .null) :
    (Decoder.orDefault default f).Survives d d' := by
  intro p v hv
  rw [orDefault_of_ne_null hnull.1] at hv
  rw [orDefault_of_ne_null hnull.2]
  exact h hv

theorem items (h : f.Survives d d') {p : Place} {after : List Document} :
    ∀ {before : List Document} {i : Nat} {vs : List α},
      Decoder.items f p i (before ++ d :: after) = .ok vs →
      Decoder.items f p i (before ++ d' :: after) = .ok vs := by
  intro before
  induction before with
  | nil =>
    intro i vs hvs
    obtain ⟨v, vs, hv, hrest, rfl⟩ := items_cons_eq_ok.1 hvs
    exact items_cons_eq_ok.2 ⟨v, vs, h hv, hrest, rfl⟩
  | cons e before ih =>
    intro i vs hvs
    obtain ⟨v, vs, hv, hrest, rfl⟩ := items_cons_eq_ok.1 hvs
    exact items_cons_eq_ok.2 ⟨v, vs, hv, ih hrest, rfl⟩

/-- **An array survives** the replacement of an item. -/
theorem list (h : f.Survives d d') (before after : List Document) :
    (Decoder.list f).Survives (.array (before ++ d :: after) .closed)
      (.array (before ++ d' :: after) .closed) := by
  intro p vs hvs
  obtain ⟨ds, ending, inner, heq, henter, hitems, hclose⟩ := list_eq_ok_iff.1 hvs
  cases heq
  exact list_eq_ok_iff.2 ⟨_, _, inner, rfl, henter, h.items hitems, hclose⟩

theorem members (h : f.Survives d d') {p : Place} {k : String}
    {before after : List (String × Document)} {vs : List (String × α)}
    (hvs : Decoder.members f p (before ++ (k, d) :: after) = .ok vs) :
    Decoder.members f p (before ++ (k, d') :: after) = .ok vs := by
  induction before generalizing vs with
  | nil =>
    obtain ⟨v, vs, hv, hrest, rfl⟩ := members_cons_eq_ok.1 hvs
    exact members_cons_eq_ok.2 ⟨v, vs, h hv, hrest, rfl⟩
  | cons m before ih =>
    obtain ⟨v, vs, hv, hrest, rfl⟩ := members_cons_eq_ok.1 hvs
    exact members_cons_eq_ok.2 ⟨v, vs, hv, ih hrest, rfl⟩

/-- **An object survives** the replacement of a member. -/
theorem dict (h : f.Survives d d') (before : List (String × Document)) (k : String)
    (after : List (String × Document)) :
    (Decoder.dict f).Survives (.object (before ++ (k, d) :: after) .closed)
      (.object (before ++ (k, d') :: after) .closed) := by
  intro p v hv
  obtain ⟨ds, ending, inner, vs, heq, henter, hmembers, hclose, rfl⟩ := dict_eq_ok_iff.1 hv
  cases heq
  exact dict_eq_ok_iff.2 ⟨_, _, inner, vs, rfl, henter, h.members hmembers, hclose, rfl⟩

end Survives

/-- **An object survives** a change of the order of its members. -/
theorem survives_dict_perm {ms ms' : List (String × Document)} (hnodup : (ms.map Prod.fst).Nodup)
    (hperm : ms.Perm ms') :
    (dict f).Survives (.object ms .closed) (.object ms' .closed) := by
  intro p v hv
  obtain ⟨ds, ending, inner, vs, heq, henter, hmembers, hclose, rfl⟩ := dict_eq_ok_iff.1 hv
  cases heq
  obtain ⟨vs', hvs', hp⟩ := members_perm hperm hmembers
  have hkeys : (vs.map Prod.fst).Nodup := by rwa [keys_of_members hmembers]
  exact dict_eq_ok_iff.2
    ⟨_, _, inner, vs', rfl, henter, hvs', hclose, (Dict.ofList_perm hkeys hp).symm⟩

/-- **Any value survives reordering.** -/
theorem survives_json (h : d.Reorders d') : Survives json d d' := by
  induction h with
  | permute hnodup hperm =>
    intro p v hv
    rw [json_object, map_eq_ok] at hv ⊢
    obtain ⟨e, he, rfl⟩ := hv
    exact ⟨e, survives_dict_perm hnodup hperm he, rfl⟩
  | item before after _ ih =>
    intro p v hv
    rw [json_array, map_eq_ok] at hv ⊢
    obtain ⟨vs, hvs, rfl⟩ := hv
    exact ⟨vs, ih.list before after hvs, rfl⟩
  | member before k after _ ih =>
    intro p v hv
    rw [json_object, map_eq_ok] at hv ⊢
    obtain ⟨e, he, rfl⟩ := hv
    exact ⟨e, ih.dict before k after he, rfl⟩

/-- **A dictionary survives reordering** if its values do. -/
theorem survives_dict (hf : ∀ ⦃d d'⦄, d.Reorders d' → f.Survives d d') (h : d.Reorders d') :
    (dict f).Survives d d' := by
  cases h with
  | permute hnodup hperm => exact survives_dict_perm hnodup hperm
  | item before after h =>
    -- An array is no dictionary, so nothing has been decoded.
    intro p v hv
    simp [dict] at hv
  | member before k after h => exact (hf h).dict before k after

end Decoder

/-! ## Fields of drafts -/

variable {σ ρ : Type}

/-- Two fields of a draft do not touch each other: reading one does not set the other, and they
can be read in either order. -/
structure Field.Independent (f g : Field σ) : Prop where
  /-- Reading the first does not set the second. -/
  isSet_right : ∀ ⦃s p d t⦄, f.read s p d = .ok t → g.isSet t = g.isSet s
  /-- Reading the second does not set the first. -/
  isSet_left : ∀ ⦃s p d t⦄, g.read s p d = .ok t → f.isSet t = f.isSet s
  /-- The draft does not tell which of the two was read first. -/
  comm : ∀ s p d q e t, (∃ u, f.read s p d = .ok u ∧ g.read u q e = .ok t) ↔
    ∃ u, g.read s q e = .ok u ∧ f.read u p d = .ok t

theorem Field.Independent.symm {f g : Field σ} (h : f.Independent g) : g.Independent f :=
  ⟨h.isSet_left, h.isSet_right, fun s p d q e t => (h.comm s q e p d t).symm⟩

instance : Std.Symm (@Field.Independent σ) := ⟨fun _ _ h => h.symm⟩

/-- Two fields with different slots are independent. -/
theorem Field.independent_of {α β : Type} {name name' : String} {get : σ → Option α}
    {set : σ → α → σ} {f : Decoder α} {get' : σ → Option β} {set' : σ → β → σ} {f' : Decoder β}
    (hget' : ∀ s v, get' (set s v) = get' s) (hget : ∀ s w, get (set' s w) = get s)
    (hset : ∀ s v w, set' (set s v) w = set (set' s w) v) :
    (Field.of name get set f).Independent (Field.of name' get' set' f') where
  isSet_right := by
    intro s p d t ht
    obtain ⟨v, -, rfl⟩ := Decoder.map_eq_ok.1 ht
    exact congrArg Option.isSome (hget' s v)
  isSet_left := by
    intro s p d t ht
    obtain ⟨w, -, rfl⟩ := Decoder.map_eq_ok.1 ht
    exact congrArg Option.isSome (hget s w)
  comm := by
    intro s p d q e t
    simp only [Field.of, Decoder.map_eq_ok]
    constructor
    · rintro ⟨u, ⟨v, hv, rfl⟩, w, hw, rfl⟩
      exact ⟨_, ⟨w, hw, rfl⟩, v, hv, (hset s v w).symm⟩
    · rintro ⟨u, ⟨w, hw, rfl⟩, v, hv, rfl⟩
      exact ⟨_, ⟨v, hv, rfl⟩, w, hw, hset s v w⟩

section Slots

variable {α : Type} {name : String} {get : σ → Option α} {set : σ → α → σ} {f : Decoder α}
  {finish : σ → ρ}

theorem Field.isSet_of (hget : ∀ s v, (get (set s v)).isSome = true) ⦃s : σ⦄ ⦃p : Place⦄
    ⦃d : Document⦄ ⦃t : σ⦄ (h : (Field.of name get set f).read s p d = .ok t) :
    (Field.of name get set f).isSet t = true := by
  obtain ⟨v, -, rfl⟩ := Decoder.map_eq_ok.1 h
  exact hget s v

/-- An empty slot may take the value of `null` if that does not show in the end. -/
theorem Field.exists_read_null {v : α} (hf : ∀ p, f p .null = .ok v)
    (hfinish : ∀ s, get s = none → finish (set s v) = finish s) (s : σ) (p : Place)
    (hset : (Field.of name get set f).isSet s = false) :
    ∃ t, (Field.of name get set f).read s p .null = .ok t ∧ finish t = finish s :=
  ⟨set s v, Decoder.map_eq_ok.2 ⟨v, hf p, rfl⟩, hfinish s (by simpa [Field.of] using hset)⟩

/-- What survives a replacement for its decoder survives it for the field. -/
theorem Field.exists_read_of_survives {d d' : Document} (hf : f.Survives d d') (s : σ) (p : Place)
    (t : σ) (h : (Field.of name get set f).read s p d = .ok t) :
    ∃ t', (Field.of name get set f).read s p d' = .ok t' ∧ finish t' = finish t :=
  ⟨t, hf.map h, rfl⟩

end Slots

namespace Layout

variable {l : Layout σ} {p inner : Place}

/-- The fields of a layout do not touch each other, and a draft shows which of them have been
read. -/
structure IsOrderless (l : Layout σ) : Prop where
  /-- Two fields do not touch each other. -/
  independent : l.Pairwise Field.Independent
  /-- A field that has been read is set. -/
  isSet : ∀ f ∈ l, ∀ ⦃s p d t⦄, f.read s p d = .ok t → f.isSet t = true

theorem IsOrderless.independent_of_ne (h : l.IsOrderless) {k k' : String} {f g : Field σ}
    (hf : l.find? k = some f) (hg : l.find? k' = some g) (hne : k ≠ k') : f.Independent g := by
  obtain ⟨hfmem, rfl⟩ := find?_eq_some hf
  obtain ⟨hgmem, rfl⟩ := find?_eq_some hg
  exact h.independent.forall hfmem hgmem fun heq => hne (heq ▸ rfl)

/-! ### The order of members -/

/-- Two members can change places. -/
theorem readMembers_swap (h : l.IsOrderless) {m m' : String × Document} {s t : σ}
    (hread : l.readMembers p inner s ([m] ++ [m']) = .ok t) :
    l.readMembers p inner s ([m'] ++ [m]) = .ok t := by
  obtain ⟨k, d⟩ := m
  obtain ⟨k', d'⟩ := m'
  obtain ⟨u, hu, ht⟩ := (readMembers_append_eq_ok [_] [_]).1 hread
  refine (readMembers_append_eq_ok [_] [_]).2 ?_
  cases hk : l.find? k with
  | none =>
    obtain ⟨hd, rfl⟩ := (readMembers_unknown hk).1 hu
    exact ⟨t, ht, (readMembers_unknown hk).2 ⟨hd, rfl⟩⟩
  | some f =>
    cases hk' : l.find? k' with
    | none =>
      obtain ⟨hd', rfl⟩ := (readMembers_unknown hk').1 ht
      exact ⟨s, (readMembers_unknown hk').2 ⟨hd', rfl⟩, hu⟩
    | some g =>
      obtain ⟨hfs, hfread⟩ := (readMembers_known hk).1 hu
      obtain ⟨hgu, hgread⟩ := (readMembers_known hk').1 ht
      by_cases heq : k = k'
      · -- The second member repeats the key of the first, which is set by then.
        subst heq
        cases hk.symm.trans hk'
        have hset := h.isSet f (find?_eq_some hk).1 hfread
        rw [hset] at hgu
        cases hgu
      · have hind := h.independent_of_ne hk hk' heq
        obtain ⟨v, hgv, hfv⟩ := (hind.comm s _ d _ d' t).1 ⟨u, hfread, hgread⟩
        have hgs : g.isSet s = false := by rw [← hind.isSet_right hfread, hgu]
        have hfv' : f.isSet v = false := by rw [hind.isSet_left hgv, hfs]
        exact ⟨v, (readMembers_known hk').2 ⟨hgs, hgv⟩, (readMembers_known hk).2 ⟨hfv', hfv⟩⟩

/-- **The order of the members does not matter.** -/
theorem readMembers_perm (h : l.IsOrderless) {ms ms' : List (String × Document)}
    (hperm : ms.Perm ms') {s t : σ} (hread : l.readMembers p inner s ms = .ok t) :
    l.readMembers p inner s ms' = .ok t := by
  induction hperm generalizing s t with
  | nil => exact hread
  | cons m _ ih =>
    obtain ⟨u, hu, ht⟩ := (readMembers_append_eq_ok [m] _).1 hread
    exact (readMembers_append_eq_ok [m] _).2 ⟨u, hu, ih ht⟩
  | swap m m' rest =>
    obtain ⟨u, hu, ht⟩ := (readMembers_append_eq_ok ([m'] ++ [m]) rest).1 hread
    exact (readMembers_append_eq_ok ([m] ++ [m']) rest).2 ⟨u, readMembers_swap h hu, ht⟩
  | trans _ _ ih ih' => exact ih' (ih hread)

/-- A member may be thought to stand at the end. -/
theorem readMembers_last (h : l.IsOrderless) {before after : List (String × Document)}
    {m : String × Document} {s t : σ} :
    l.readMembers p inner s (before ++ m :: after) = .ok t ↔
      ∃ u, l.readMembers p inner s (before ++ after) = .ok u ∧
        l.readMembers p inner u [m] = .ok t := by
  have hperm : (before ++ m :: after).Perm ((before ++ after) ++ [m]) :=
    List.perm_middle.trans (List.perm_append_singleton m _).symm
  rw [← readMembers_append_eq_ok]
  exact ⟨readMembers_perm h hperm, readMembers_perm h hperm.symm⟩

/-- A field whose key does not occur is not set by reading the members. -/
theorem isSet_of_readMembers (h : l.IsOrderless) {k : String} {f : Field σ}
    (hf : l.find? k = some f) {ms : List (String × Document)} (hk : k ∉ ms.map Prod.fst) {s t : σ}
    (hread : l.readMembers p inner s ms = .ok t) : f.isSet t = f.isSet s := by
  induction ms generalizing s with
  | nil =>
    cases hread
    rfl
  | cons m rest ih =>
    obtain ⟨k', d⟩ := m
    obtain ⟨hne, hrest⟩ := not_or.1 (mt List.mem_cons.2 hk)
    obtain ⟨u, hu, ht⟩ := (readMembers_append_eq_ok [(k', d)] rest).1 hread
    rw [ih hrest ht]
    cases hk' : l.find? k' with
    | none =>
      obtain ⟨-, rfl⟩ := (readMembers_unknown hk').1 hu
      rfl
    | some g =>
      exact (h.independent_of_ne hf hk' hne).isSet_left ((readMembers_known hk').1 hu).2

/-! ### Spellings -/

/-- Two spellings of an object with known keys. Any known key in `optional` may be left out or be
written with `null`, and `spells` says what may be exchanged for what under a known key. -/
inductive Respells (l : Layout σ) (optional : List String)
    (spells : String → Document → Document → Prop) : Document → Document → Prop
  /-- The members are listed in another order. -/
  | permute {ms ms' : List (String × Document)} (hperm : ms.Perm ms') :
      l.Respells optional spells (.object ms .closed) (.object ms' .closed)
  /-- There is one more member, under an unknown key, with any value that can be passed over. -/
  | unknown {k : String} {d : Document} (before after : List (String × Document))
      (hk : k ∉ l.names) (hd : d.passing = none) :
      l.Respells optional spells (.object (before ++ after) .closed)
        (.object (before ++ (k, d) :: after) .closed)
  /-- There is a `null` under a key that was absent. -/
  | addNull {k : String} (before after : List (String × Document)) (hk : k ∈ optional)
      (habsent : k ∉ (before ++ after).map Prod.fst) :
      l.Respells optional spells (.object (before ++ after) .closed)
        (.object (before ++ (k, .null) :: after) .closed)
  /-- A key is absent under which there was `null`. -/
  | dropNull {k : String} (before after : List (String × Document)) (hk : k ∈ optional) :
      l.Respells optional spells (.object (before ++ (k, .null) :: after) .closed)
        (.object (before ++ after) .closed)
  /-- What stands under a known key is spelled in another way. -/
  | member {k : String} {d d' : Document} (before after : List (String × Document))
      (h : spells k d d') :
      l.Respells optional spells (.object (before ++ (k, d) :: after) .closed)
        (.object (before ++ (k, d') :: after) .closed)

variable {blank : σ} {finish : σ → ρ} {optional : List String}
  {spells : String → Document → Document → Prop}

/-- Both sides of a respelling are closed objects. -/
theorem Respells.exists_members {d d' : Document} (h : l.Respells optional spells d d') :
    ∃ ms ms', d = .object ms .closed ∧ d' = .object ms' .closed := by
  cases h <;> exact ⟨_, _, rfl, rfl⟩

theorem Respells.ne_null {d d' : Document} (h : l.Respells optional spells d d') :
    d ≠ .null ∧ d' ≠ .null := by
  obtain ⟨ms, ms', rfl, rfl⟩ := h.exists_members
  exact ⟨nofun, nofun⟩

/-- What makes a layout blind for spellings, as far as finished values show. -/
structure Tolerates (l : Layout σ) (blank : σ) (finish : σ → ρ) (optional : List String)
    (spells : String → Document → Document → Prop) : Prop where
  /-- The fields do not touch each other. -/
  orderless : l.IsOrderless
  /-- At the beginning nothing is set. -/
  isSet_blank : ∀ f ∈ l, f.isSet blank = false
  /-- A field that is written as `null` may as well be left out. -/
  null : ∀ ⦃k⦄, k ∈ optional → ∃ f, l.find? k = some f ∧ ∀ s p, f.isSet s = false →
    ∃ t, f.read s p .null = .ok t ∧ finish t = finish s
  /-- A field may be spelled in another way. -/
  member : ∀ ⦃k d d'⦄, spells k d d' → ∃ f, l.find? k = some f ∧ ∀ s p t,
    f.read s p d = .ok t → ∃ t', f.read s p d' = .ok t' ∧ finish t' = finish t

namespace Tolerates

/-- **One step** of spelling the members in another way does not change the finished value. -/
theorem readMembers (h : l.Tolerates blank finish optional spells)
    {ms ms' : List (String × Document)}
    (hspell : l.Respells optional spells (.object ms .closed) (.object ms' .closed)) {t : σ}
    (hread : l.readMembers p inner blank ms = .ok t) :
    ∃ t', l.readMembers p inner blank ms' = .ok t' ∧ finish t' = finish t := by
  cases hspell with
  | permute hperm => exact ⟨t, readMembers_perm h.orderless hperm hread, rfl⟩
  | @unknown k d before after hk hd =>
    have hlast : l.readMembers p inner t [(k, d)] = .ok t :=
      (readMembers_unknown (find?_eq_none_iff.2 hk)).2 ⟨hd, rfl⟩
    exact ⟨t, (readMembers_last h.orderless).2 ⟨t, hread, hlast⟩, rfl⟩
  | @addNull k before after hk habsent =>
    obtain ⟨f, hf, hnull⟩ := h.null hk
    have hset : f.isSet t = false := by
      rw [isSet_of_readMembers h.orderless hf habsent hread, h.isSet_blank f (find?_eq_some hf).1]
    obtain ⟨t', ht', hfinish⟩ := hnull t (inner.child (.key k)) hset
    have hlast : l.readMembers p inner t [(k, .null)] = .ok t' :=
      (readMembers_known hf).2 ⟨hset, ht'⟩
    exact ⟨t', (readMembers_last h.orderless).2 ⟨t, hread, hlast⟩, hfinish⟩
  | dropNull before after hk =>
    obtain ⟨f, hf, hnull⟩ := h.null hk
    obtain ⟨u, hu, hlast⟩ := (readMembers_last h.orderless).1 hread
    obtain ⟨hset, ht⟩ := (readMembers_known hf).1 hlast
    obtain ⟨t', ht', hfinish⟩ := hnull u _ hset
    cases ht.symm.trans ht'
    exact ⟨u, hu, hfinish.symm⟩
  | @member k d d' before after hd =>
    obtain ⟨f, hf, hmember⟩ := h.member hd
    obtain ⟨u, hu, hlast⟩ := (readMembers_last h.orderless).1 hread
    obtain ⟨hset, ht⟩ := (readMembers_known hf).1 hlast
    obtain ⟨t', ht', hfinish⟩ := hmember u _ t ht
    have hlast' : l.readMembers p inner u [(k, d')] = .ok t' :=
      (readMembers_known hf).2 ⟨hset, ht'⟩
    exact ⟨t', (readMembers_last h.orderless).2 ⟨u, hu, hlast'⟩, hfinish⟩

/-- **A value with known fields** is finished in the same way after a respelling. -/
theorem read (h : l.Tolerates blank finish optional spells) {d d' : Document}
    (hspell : l.Respells optional spells d d') {t : σ} (hread : l.read blank p d = .ok t) :
    ∃ t', l.read blank p d' = .ok t' ∧ finish t' = finish t := by
  obtain ⟨ms, ms', rfl, rfl⟩ := hspell.exists_members
  obtain ⟨inner, henter, hmembers⟩ := read_object_eq_ok.1 hread
  obtain ⟨t', ht', hfinish⟩ := h.readMembers hspell hmembers
  exact ⟨t', read_object_eq_ok.2 ⟨inner, henter, ht'⟩, hfinish⟩

/-- What is made of a finished value survives a respelling. -/
theorem survives (h : l.Tolerates blank finish optional spells) {d d' : Document}
    (hspell : l.Respells optional spells d d') :
    Decoder.Survives (fun p d => finish <$> l.read blank p d) d d' := by
  intro p v hv
  obtain ⟨t, ht, rfl⟩ := Decoder.map_eq_ok.1 hv
  obtain ⟨t', ht', hfinish⟩ := h.read hspell ht
  exact Decoder.map_eq_ok.2 ⟨t', ht', hfinish⟩

end Tolerates

end Layout

end AccessPolicy
