import AccessPolicy.Proofs.Json.Respelling

/-!
# Documents with a gap

A frame is a document with a gap in it, and whatever is put into the gap makes it whole. What a
decoder makes of a whole document depends on what stands in the gap only through the decoder that
reads the gap: either the frame is refused in any case, or the value from the gap is put into a
rest that does not depend on it. Frames are put together from the inside to the outside, and so is
what is known of them.

The rest is read before and after the gap. For a value with known fields it may all be thought to
be read before, since the fields do not touch each other.

## Main definitions

* `Decoder.Refuses`, `Decoder.ReadsThrough` — the two things that may become of a frame.
* `Decoder.Reaches` — wherever the frame stands, one of the two.
* `Layout.Gap` — a value with known fields that lacks what is written for one of them.

## Main statements

* `Decoder.Reaches.comp` — a frame in the gap of a frame.
* `Decoder.reaches_list` — the gap is an item of an array.
* `Layout.Gap.reaches` — the gap is a field of a value with known fields.
-/
namespace AccessPolicy

namespace Decoder

variable {α β γ : Type} {f : Decoder α} {g : Decoder β} {h : Decoder γ}
  {frame inside : Document → Document} {m n : Nat}

/-- Whatever stands in the gap, there is no value. -/
def Refuses (f : Decoder α) (p : Place) (frame : Document → Document) : Prop :=
  ∀ d a, f p (frame d) ≠ .ok a

/-- What stands in the gap is read by `g` at `q`, and its value is put into a rest that is the
same for whatever stands there. -/
def ReadsThrough (f : Decoder α) (p : Place) (frame : Document → Document) (g : Decoder β)
    (q : Place) (put : β → α) : Prop :=
  ∀ d a, f p (frame d) = .ok a ↔ ∃ b, g q d = .ok b ∧ put b = a

/-- Wherever the frame stands, it is refused, or its gap is read by `g` so many containers further
down. `puts` says in which ways the value may be put into the rest. -/
def Reaches (f : Decoder α) (frame : Document → Document) (g : Decoder β) (depth : Nat)
    (puts : (β → α) → Prop) : Prop :=
  ∀ p, f.Refuses p frame ∨
    ∃ q put, q.levels + depth = p.levels ∧ puts put ∧ f.ReadsThrough p frame g q put

/-- A frame is refused or read through its gap if it is read in two parts: a rest in which the gap
does not occur, which gives the place of the gap and what becomes of its value, and the gap. -/
theorem refuses_or_readsThrough {p : Place} {rest : Except DecodeError (Place × (β → α))}
    (hread : ∀ d a, f p (frame d) = .ok a ↔
      ∃ q put, rest = .ok (q, put) ∧ ∃ b, g q d = .ok b ∧ put b = a) :
    f.Refuses p frame ∨ ∃ q put, rest = .ok (q, put) ∧ f.ReadsThrough p frame g q put := by
  rcases rest with e | ⟨q, put⟩
  · refine .inl fun d a ha => ?_
    obtain ⟨q, put, hrest, -⟩ := (hread d a).1 ha
    cases hrest
  · refine .inr ⟨q, put, rfl, fun d a => (hread d a).trans ⟨?_, fun hb => ⟨q, put, rfl, hb⟩⟩⟩
    rintro ⟨_, _, ⟨⟩, hb⟩
    exact hb

namespace Reaches

variable {puts : (β → α) → Prop}

/-- **A frame in the gap of a frame.** -/
theorem comp {puts' : (γ → β) → Prop} (hf : f.Reaches frame g n puts)
    (hg : g.Reaches inside h m puts') :
    f.Reaches (frame ∘ inside) h (n + m)
      fun put => ∃ outer inner, puts outer ∧ puts' inner ∧ put = outer ∘ inner := by
  intro p
  rcases hf p with hrefuse | ⟨q, outer, hq, houter, hread⟩
  · exact .inl fun d => hrefuse (inside d)
  rcases hg q with hrefuse | ⟨r, inner, hr, hinner, hread'⟩
  · refine .inl fun d a ha => ?_
    obtain ⟨b, hb, -⟩ := (hread _ a).1 ha
    exact hrefuse d b hb
  · refine .inr ⟨r, outer ∘ inner, by omega, ⟨outer, inner, houter, hinner, rfl⟩, ?_⟩
    intro d a
    rw [Function.comp_apply, hread]
    constructor
    · rintro ⟨b, hb, rfl⟩
      obtain ⟨c, hc, rfl⟩ := (hread' d b).1 hb
      exact ⟨c, hc, rfl⟩
    · rintro ⟨c, hc, rfl⟩
      exact ⟨inner c, (hread' d _).2 ⟨c, hc, rfl⟩, rfl⟩

theorem mono {puts' : (β → α) → Prop} (hf : f.Reaches frame g n puts)
    (himp : ∀ put, puts put → puts' put) : f.Reaches frame g n puts' := by
  intro p
  rcases hf p with hrefuse | ⟨q, put, hq, hput, hread⟩
  · exact .inl hrefuse
  · exact .inr ⟨q, put, hq, himp put hput, hread⟩

/-- What the decoder gives is checked and changed afterwards, and the check does not look at what
comes out of the gap. -/
theorem check {puts' : (β → γ) → Prop} {finish : α → Place → Except DecodeError γ}
    (hf : f.Reaches frame g n puts)
    (hfinish : ∀ p put, puts put → (∀ b c, finish (put b) p ≠ .ok c) ∨
      ∃ put', puts' put' ∧ ∀ b, finish (put b) p = .ok (put' b)) :
    Reaches (fun p d => f p d >>= fun a => finish a p) frame g n puts' := by
  intro p
  rcases hf p with hrefuse | ⟨q, put, hq, hput, hread⟩
  · refine .inl fun d c hc => ?_
    obtain ⟨a, ha, -⟩ := bind_eq_ok.1 hc
    exact hrefuse d a ha
  rcases hfinish p put hput with hfail | ⟨put', hput', heq⟩
  · refine .inl fun d c hc => ?_
    obtain ⟨a, ha, hfin⟩ := bind_eq_ok.1 hc
    obtain ⟨b, -, rfl⟩ := (hread d a).1 ha
    exact hfail b c hfin
  · refine .inr ⟨q, put', hq, hput', fun d c => ?_⟩
    rw [bind_eq_ok]
    constructor
    · rintro ⟨a, ha, hfin⟩
      obtain ⟨b, hb, rfl⟩ := (hread d a).1 ha
      exact ⟨b, hb, Except.ok.inj ((heq b).symm.trans hfin)⟩
    · rintro ⟨b, hb, rfl⟩
      exact ⟨put b, (hread d _).2 ⟨b, hb, rfl⟩, heq b⟩

/-- What the decoder gives is changed afterwards. -/
theorem map (hf : f.Reaches frame g n puts) (change : α → γ) :
    Reaches (fun p d => change <$> f p d) frame g n
      fun put' => ∃ put, puts put ∧ put' = change ∘ put := by
  have hcheck : Reaches (fun p d => f p d >>= fun a => pure (change a)) frame g n
      fun put' => ∃ put, puts put ∧ put' = change ∘ put :=
    hf.check fun p put hput => .inr ⟨change ∘ put, ⟨put, hput, rfl⟩, fun _ => rfl⟩
  simpa only [map_eq_pure_bind] using hcheck

/-- A value with a default is read as itself if no gap makes it absent. -/
theorem orDefault (hf : f.Reaches frame g n puts) (default : α) (hnull : ∀ d, frame d ≠ .null) :
    (Decoder.orDefault default f).Reaches frame g n puts := by
  intro p
  have heq : ∀ d, Decoder.orDefault default f p (frame d) = f p (frame d) :=
    fun d => orDefault_of_ne_null (hnull d)
  simpa only [Refuses, ReadsThrough, heq] using hf p

end Reaches

/-! ## Items of arrays -/

theorem items_append_eq_ok {p : Place} {xs ys : List Document} {i : Nat} {vs : List α} :
    items f p i (xs ++ ys) = .ok vs ↔
      ∃ us ws, items f p i xs = .ok us ∧ items f p (i + xs.length) ys = .ok ws ∧
        us ++ ws = vs := by
  induction xs generalizing i vs with
  | nil => simp [items]
  | cons x xs ih =>
    simp only [List.cons_append, items_cons_eq_ok, ih, List.length_cons, Nat.add_right_comm i 1]
    constructor
    · rintro ⟨v, _, hv, ⟨us, ws, hus, hws, rfl⟩, rfl⟩
      exact ⟨v :: us, ws, ⟨v, us, hv, hus, rfl⟩, hws, rfl⟩
    · rintro ⟨_, ws, ⟨v, us, hv, hus, rfl⟩, hws, rfl⟩
      exact ⟨v, us ++ ws, hv, ⟨us, ws, hus, hws, rfl⟩, rfl⟩

theorem length_of_items {p : Place} {ds : List Document} {i : Nat} {vs : List α}
    (hread : items f p i ds = .ok vs) : vs.length = ds.length := by
  induction ds generalizing i vs with
  | nil =>
    cases hread
    rfl
  | cons d rest ih =>
    obtain ⟨v, vs, -, hvs, rfl⟩ := items_cons_eq_ok.1 hread
    rw [List.length_cons, List.length_cons, ih hvs]

/-- What is read of an array besides an item, with the place of the item. -/
def restOfList (f : Decoder α) (before after : List Document) (p : Place) :
    Except DecodeError (Place × (α → List α)) := do
  let inner ← p.enter
  let left ← items f inner 0 before
  let right ← items f inner (before.length + 1) after
  pure (inner.child (.index before.length), fun v => left ++ v :: right)

theorem restOfList_eq_ok {before after : List Document} {p q : Place} {put : α → List α} :
    restOfList f before after p = .ok (q, put) ↔
      ∃ inner left right, p.enter = .ok inner ∧ items f inner 0 before = .ok left ∧
        items f inner (before.length + 1) after = .ok right ∧
        inner.child (.index before.length) = q ∧ (fun v => left ++ v :: right) = put := by
  simp [restOfList]

/-- **The gap is an item of an array.** Its value is put at the place of the item. -/
theorem reaches_list (f : Decoder α) (before after : List Document) :
    (list f).Reaches (fun d => .array (before ++ d :: after) .closed) f 1
      fun put => ∃ left right, left.length = before.length ∧ put = fun v => left ++ v :: right := by
  intro p
  have hread : ∀ d vs, list f p (.array (before ++ d :: after) .closed) = .ok vs ↔
      ∃ q put, restOfList f before after p = .ok (q, put) ∧ ∃ v, f q d = .ok v ∧ put v = vs := by
    intro d vs
    simp only [list_eq_ok_iff, restOfList_eq_ok]
    constructor
    · rintro ⟨_, _, inner, ⟨⟩, henter, hitems, -⟩
      obtain ⟨left, ws, hleft, hws, rfl⟩ := items_append_eq_ok.1 hitems
      rw [Nat.zero_add] at hws
      obtain ⟨v, right, hv, hright, rfl⟩ := items_cons_eq_ok.1 hws
      exact ⟨_, _, ⟨inner, left, right, henter, hleft, hright, rfl, rfl⟩, v, hv, rfl⟩
    · rintro ⟨_, _, ⟨inner, left, right, henter, hleft, hright, rfl, rfl⟩, v, hv, rfl⟩
      have hitem : items f inner (0 + before.length) (d :: after) = .ok (v :: right) := by
        rw [Nat.zero_add]
        exact items_cons_eq_ok.2 ⟨v, right, hv, hright, rfl⟩
      exact ⟨_, _, inner, rfl, henter, items_append_eq_ok.2 ⟨left, _, hleft, hitem, rfl⟩, rfl⟩
  rcases refuses_or_readsThrough hread with hrefuse | ⟨q, put, hrest, hthrough⟩
  · exact .inl hrefuse
  · obtain ⟨inner, left, right, henter, hleft, -, rfl, rfl⟩ := restOfList_eq_ok.1 hrest
    exact .inr ⟨inner.child (.index before.length), _, (Place.levels_of_enter henter).symm,
      ⟨left, right, length_of_items hleft, rfl⟩, hthrough⟩

end Decoder

/-! ## Values with known fields -/

namespace Layout

variable {σ : Type} {l : Layout σ} {p inner : Place}

/-- A value with known fields that lacks what is written for the field of the given name. -/
inductive Gap (l : Layout σ) (name : String) : (Document → Document) → Prop
  /-- The gap is a member of an object. -/
  | member (before after : List (String × Document)) :
      l.Gap name fun d => .object (before ++ (name, d) :: after) .closed
  /-- The fields are listed without keys, and the gap stands where the field does. -/
  | item (before after : List Document) (h : l.names[before.length]? = some name) :
      l.Gap name fun d => .array (before ++ d :: after) .closed

/-! ### Items that are read into fields -/

/-- The first items of an array are read into the first fields. -/
theorem readItems_append_eq_ok {ending : ArrayEnding} {front back : Layout σ}
    {xs ys : List Document} (hlength : front.length = xs.length) {i : Nat} {s t : σ} :
    readItems p inner ending i s (front ++ back) (xs ++ ys) = .ok t ↔
      ∃ u, readItems p inner .closed i s front xs = .ok u ∧
        readItems p inner ending (i + xs.length) u back ys = .ok t := by
  induction front generalizing xs i s with
  | nil =>
    obtain rfl := List.length_eq_zero_iff.1 hlength.symm
    simp [readItems_nil]
  | cons g front ih =>
    cases xs with
    | nil => cases hlength
    | cons x xs =>
      have hrest : front.length = xs.length := Nat.succ.inj hlength
      simp only [List.cons_append, readItems_cons, ih hrest, List.length_cons,
        Nat.add_right_comm i 1]
      constructor
      · rintro ⟨v, hv, u, hu, ht⟩
        exact ⟨u, ⟨v, hv, hu⟩, ht⟩
      · rintro ⟨u, ⟨v, hv, hu⟩, ht⟩
        exact ⟨v, hv, u, hu, ht⟩

/-- A field may be thought to be read after the items that follow it. -/
theorem readItems_last {f : Field σ} {back : Layout σ} (hind : ∀ g ∈ back, f.Independent g)
    {q : Place} {d : Document} {ds : List Document} {i : Nat} {s t : σ} :
    (∃ u, f.read s q d = .ok u ∧ readItems p inner .closed i u back ds = .ok t) ↔
      ∃ u, readItems p inner .closed i s back ds = .ok u ∧ f.read u q d = .ok t := by
  induction back generalizing i s ds with
  | nil => cases ds <;> simp [readItems_nil, readItems_surplus]
  | cons g back ih =>
    obtain ⟨hg, hback⟩ := List.forall_mem_cons.1 hind
    cases ds with
    | nil => simp [readItems_missing]
    | cons e es =>
      simp only [readItems_cons]
      constructor
      · rintro ⟨u, hu, v, hv, ht⟩
        obtain ⟨w, hw, hv'⟩ := (hg.comm s q d _ e v).1 ⟨u, hu, hv⟩
        obtain ⟨x, hx, ht'⟩ := (ih hback).1 ⟨v, hv', ht⟩
        exact ⟨x, ⟨w, hw, hx⟩, ht'⟩
      · rintro ⟨x, ⟨w, hw, hx⟩, ht⟩
        obtain ⟨v, hv, ht'⟩ := (ih hback).2 ⟨x, hx, ht⟩
        obtain ⟨u, hu, hv'⟩ := (hg.comm s q d _ e v).2 ⟨w, hw, hv⟩
        exact ⟨u, hu, v, hv', ht'⟩

/-- A layout that names no two fields alike, taken apart at a field. -/
theorem exists_eq_append (hnodup : l.names.Nodup) {name : String} {i : Nat}
    (hi : l.names[i]? = some name) {f : Field σ} (hf : l.find? name = some f) :
    ∃ front back, l = front ++ f :: back ∧ front.length = i := by
  obtain ⟨g, hg, hname⟩ : ∃ g, l[i]? = some g ∧ g.name = name := by
    simpa [names] using hi
  obtain ⟨hlt, hget⟩ := List.getElem?_eq_some_iff.1 hg
  have hsplit : l = l.take i ++ g :: l.drop (i + 1) := by
    rw [← hget, List.getElem_cons_drop, List.take_append_drop]
  obtain ⟨hmem, hfname⟩ := find?_eq_some hf
  have heq : f = g :=
    List.inj_on_of_nodup_map hnodup hmem (List.mem_of_getElem? hg) (hfname.trans hname.symm)
  exact ⟨l.take i, l.drop (i + 1), heq ▸ hsplit, List.length_take_of_le (Nat.le_of_lt hlt)⟩

variable {α : Type} {name : String} {get : σ → Option α} {set : σ → α → σ} {f : Decoder α}
  {frame : Document → Document} {blank : σ}

/-! ### The gap is a member of an object -/

/-- What is read of an object besides the member for the slot, which has to be free, with the
place of the member. -/
def restOfMembers (l : Layout σ) (blank : σ) (name : String) (get : σ → Option α)
    (set : σ → α → σ) (before after : List (String × Document)) (p : Place) :
    Except DecodeError (Place × (α → σ)) := do
  let inner ← p.enter
  let u ← l.readMembers p inner blank (before ++ after)
  if (get u).isSome then p.fail .repeatedKey
  else pure (inner.child (.key name), set u)

theorem restOfMembers_eq_ok {before after : List (String × Document)} {q : Place} {put : α → σ} :
    restOfMembers l blank name get set before after p = .ok (q, put) ↔
      ∃ inner u, p.enter = .ok inner ∧ l.readMembers p inner blank (before ++ after) = .ok u ∧
        get u = none ∧ inner.child (.key name) = q ∧ set u = put := by
  simp only [restOfMembers, Decoder.bind_eq_ok]
  constructor
  · rintro ⟨inner, henter, u, hu, hrest⟩
    cases hget : get u with
    | none =>
      simp only [hget, Option.isSome_none, Bool.false_eq_true, if_false,
        Decoder.pure_eq_ok] at hrest
      cases hrest
      exact ⟨inner, u, henter, hu, hget, rfl, rfl⟩
    | some v => simp [hget] at hrest
  · rintro ⟨inner, u, henter, hu, hget, rfl, rfl⟩
    exact ⟨inner, henter, u, hu, by simp [hget]⟩

/-- A member for a slot fills it, if it is empty. -/
theorem readMembers_slot (hf : l.find? name = some (.of name get set f)) {d : Document} {s t : σ} :
    l.readMembers p inner s [(name, d)] = .ok t ↔
      get s = none ∧ ∃ a, f (inner.child (.key name)) d = .ok a ∧ set s a = t := by
  rw [readMembers_known hf]
  simp only [Field.of, Option.isSome_eq_false_iff, Option.isNone_iff_eq_none, Decoder.map_eq_ok]

theorem read_member_eq_ok (horder : l.IsOrderless) (hf : l.find? name = some (.of name get set f))
    (blank : σ) (p : Place) (before after : List (String × Document)) (d : Document) (t : σ) :
    l.read blank p (.object (before ++ (name, d) :: after) .closed) = .ok t ↔
      ∃ q put, restOfMembers l blank name get set before after p = .ok (q, put) ∧
        ∃ a, f q d = .ok a ∧ put a = t := by
  simp only [read_object_eq_ok, readMembers_last horder, readMembers_slot hf, restOfMembers_eq_ok]
  constructor
  · rintro ⟨inner, henter, u, hu, hget, ht⟩
    exact ⟨_, _, ⟨inner, u, henter, hu, hget, rfl, rfl⟩, ht⟩
  · rintro ⟨_, _, ⟨inner, u, henter, hu, hget, rfl, rfl⟩, ht⟩
    exact ⟨inner, henter, u, hu, hget, ht⟩

/-! ### The gap is an item of an array -/

/-- What is read of an array besides the item for the slot, with the place of the item. -/
def restOfItems (front back : Layout σ) (blank : σ) (set : σ → α → σ)
    (before after : List Document) (p : Place) : Except DecodeError (Place × (α → σ)) := do
  let inner ← p.enter
  let u ← readItems p inner .closed 0 blank front before
  let v ← readItems p inner .closed (before.length + 1) u back after
  pure (inner.child (.index before.length), set v)

theorem restOfItems_eq_ok {front back : Layout σ} {before after : List Document} {q : Place}
    {put : α → σ} :
    restOfItems front back blank set before after p = .ok (q, put) ↔
      ∃ inner u v, p.enter = .ok inner ∧ readItems p inner .closed 0 blank front before = .ok u ∧
        readItems p inner .closed (before.length + 1) u back after = .ok v ∧
        inner.child (.index before.length) = q ∧ set v = put := by
  simp [restOfItems]

theorem read_item_eq_ok {front back : Layout σ}
    (horder : Layout.IsOrderless (front ++ .of name get set f :: back)) {before : List Document}
    (hlength : front.length = before.length) (blank : σ) (p : Place) (after : List Document)
    (d : Document) (t : σ) :
    Layout.read (front ++ .of name get set f :: back) blank p
        (.array (before ++ d :: after) .closed) = .ok t ↔
      ∃ q put, restOfItems front back blank set before after p = .ok (q, put) ∧
        ∃ a, f q d = .ok a ∧ put a = t := by
  have hind : ∀ g ∈ back, (Field.of name get set f).Independent g :=
    (List.pairwise_cons.1 (List.pairwise_append.1 horder.independent).2.1).1
  simp only [Layout.read, Decoder.bind_eq_ok, readItems_append_eq_ok hlength, readItems_cons,
    readItems_last hind, Nat.zero_add, restOfItems_eq_ok]
  simp only [Field.of, Decoder.map_eq_ok]
  constructor
  · rintro ⟨inner, henter, u, hu, v, hv, ht⟩
    exact ⟨_, _, ⟨inner, u, v, henter, hu, hv, rfl, rfl⟩, ht⟩
  · rintro ⟨_, _, ⟨inner, u, v, henter, hu, hv, rfl, rfl⟩, ht⟩
    exact ⟨inner, henter, u, hu, v, hv, ht⟩

/-- **The gap is a field of a value with known fields.** Its value is put into the slot of a draft
to which everything else has been read. -/
theorem Gap.reaches (h : l.Gap name frame) (horder : l.IsOrderless) (hnodup : l.names.Nodup)
    (hf : l.find? name = some (.of name get set f)) (blank : σ) :
    Decoder.Reaches (l.read blank) frame f 1 fun put => ∃ u, put = set u := by
  intro p
  cases h with
  | member before after =>
    have hread := read_member_eq_ok horder hf blank p before after
    rcases Decoder.refuses_or_readsThrough hread with hrefuse | ⟨q, put, hrest, hthrough⟩
    · exact .inl hrefuse
    · obtain ⟨inner, u, henter, -, -, rfl, rfl⟩ := restOfMembers_eq_ok.1 hrest
      exact .inr ⟨inner.child (.key name), _, (Place.levels_of_enter henter).symm, ⟨u, rfl⟩,
        hthrough⟩
  | item before after hindex =>
    obtain ⟨front, back, rfl, hlength⟩ := exists_eq_append hnodup hindex hf
    have hread := read_item_eq_ok horder hlength blank p after
    rcases Decoder.refuses_or_readsThrough hread with hrefuse | ⟨q, put, hrest, hthrough⟩
    · exact .inl hrefuse
    · obtain ⟨inner, u, v, henter, -, -, rfl, rfl⟩ := restOfItems_eq_ok.1 hrest
      exact .inr ⟨inner.child (.index before.length), _, (Place.levels_of_enter henter).symm,
        ⟨v, rfl⟩, hthrough⟩

end Layout

end AccessPolicy
