import AccessPolicy.Json.Decoder

/-!
# What a decoder has read when it succeeds

A decoder runs through a document step by step and stops at the first thing that is wrong. Here
each step is inverted once: a decoder that gives a value has opened its container, has read every
part and has met the closing bracket. Later proofs take a run apart with these lemmas and never
open a decoder.

## Main statements

* `Decoder.bind_eq_ok` — a sequence succeeds if both of its steps do.
* `Place.levels_of_enter`, `Place.exists_enter` — opening a container takes one level.
* `Decoder.list_eq_ok_iff`, `Decoder.dict_eq_ok_iff` — what arrays and objects have passed.
* `Decoder.json_array`, `Decoder.json_object` — any container is read as a list or a dictionary.
* `Layout.readMembers_append_eq_ok`, `Layout.readMembers_known`, `Layout.readMembers_unknown` — the
  members of an object with known keys are read one after the other.
* `Layout.readItems_nil`, `Layout.readItems_missing`, `Layout.readItems_surplus`,
  `Layout.readItems_cons` — the items of an array are read into one field after the other.
-/
namespace AccessPolicy

/-! ## Sequences of steps -/

namespace Decoder

variable {ε α β : Type}

/-- **A sequence succeeds** if the first step does and the second does with its value. -/
@[simp] theorem bind_eq_ok {x : Except ε α} {f : α → Except ε β} {b : β} :
    (x >>= f) = .ok b ↔ ∃ a, x = .ok a ∧ f a = .ok b := by
  rcases x with e | a <;> simp [bind, Except.bind]

@[simp] theorem map_eq_ok {x : Except ε α} {f : α → β} {b : β} :
    f <$> x = .ok b ↔ ∃ a, x = .ok a ∧ f a = b := by
  rcases x with e | a <;> simp [Functor.map, Except.map]

@[simp] theorem pure_eq_ok {a b : α} : (pure a : Except ε α) = .ok b ↔ a = b := by
  simp [pure, Except.pure]

end Decoder

/-! ## Places -/

namespace Place

@[simp] theorem fail_ne_ok {α : Type} (p : Place) (cause : DecodeCause) (a : α) :
    p.fail cause ≠ .ok a := by
  intro h
  cases h

/-- A container that has been opened took one level. -/
theorem levels_of_enter {p inner : Place} (h : p.enter = .ok inner) :
    p.levels = inner.levels + 1 := by
  simp only [enter] at h
  split at h
  · cases h
  · rename_i n hn
    cases h
    exact hn

/-- A container can be opened if a level is left. -/
theorem exists_enter {p : Place} {n : Nat} (h : n + 1 ≤ p.levels) :
    ∃ inner, p.enter = .ok inner ∧ n ≤ inner.levels := by
  obtain ⟨steps, levels⟩ := p
  cases levels with
  | zero => simp at h
  | succ m => exact ⟨⟨steps, m⟩, rfl, by simpa using h⟩

theorem closeArray_eq_ok_iff {p : Place} {ending : ArrayEnding} :
    p.closeArray ending = .ok () ↔ ending = .closed := by
  cases ending <;> simp [closeArray]

theorem closeObject_eq_ok_iff {p : Place} {ending : ObjectEnding} :
    p.closeObject ending = .ok () ↔ ending = .closed := by
  cases ending <;> simp [closeObject]

end Place

/-! ## Containers -/

namespace Decoder

variable {α : Type} {f : Decoder α} {p : Place}

@[simp] theorem mismatch_ne_ok {d : Document} {v : α} : mismatch p d ≠ .ok v := by
  intro h
  cases d <;> cases h

theorem items_cons_eq_ok {i : Nat} {d : Document} {rest : List Document} {result : List α} :
    items f p i (d :: rest) = .ok result ↔
      ∃ v vs, f (p.child (.index i)) d = .ok v ∧ items f p (i + 1) rest = .ok vs ∧
        result = v :: vs := by
  simp only [items, bind_eq_ok, pure_eq_ok]
  constructor
  · rintro ⟨v, hv, vs, hvs, rfl⟩
    exact ⟨v, vs, hv, hvs, rfl⟩
  · rintro ⟨v, vs, hv, hvs, rfl⟩
    exact ⟨v, hv, vs, hvs, rfl⟩

theorem members_cons_eq_ok {k : String} {d : Document} {rest : List (String × Document)}
    {result : List (String × α)} :
    members f p ((k, d) :: rest) = .ok result ↔
      ∃ v vs, f (p.child (.key k)) d = .ok v ∧ members f p rest = .ok vs ∧
        result = (k, v) :: vs := by
  simp only [members, bind_eq_ok, pure_eq_ok]
  constructor
  · rintro ⟨v, hv, vs, hvs, rfl⟩
    exact ⟨v, vs, hv, hvs, rfl⟩
  · rintro ⟨v, vs, hv, hvs, rfl⟩
    exact ⟨v, hv, vs, hvs, rfl⟩

/-- **An array has been read** if it could be opened, its items have been read, and it is
closed. -/
theorem list_eq_ok_iff {d : Document} {vs : List α} :
    list f p d = .ok vs ↔
      ∃ ds ending inner, d = .array ds ending ∧ p.enter = .ok inner ∧
        items f inner 0 ds = .ok vs ∧ p.closeArray ending = .ok () := by
  cases d with
  | array ds ending =>
    simp only [list, bind_eq_ok, pure_eq_ok]
    constructor
    · rintro ⟨inner, henter, vs', hitems, ⟨⟩, hclose, rfl⟩
      exact ⟨ds, ending, inner, rfl, henter, hitems, hclose⟩
    · rintro ⟨ds, ending, inner, heq, henter, hitems, hclose⟩
      cases heq
      exact ⟨inner, henter, vs, hitems, (), hclose, rfl⟩
  | _ => simp [list]

/-- **An object has been read** if it could be opened, its members have been read, and it is
closed. -/
theorem dict_eq_ok_iff {d : Document} {v : Dict α} :
    dict f p d = .ok v ↔
      ∃ ds ending inner vs, d = .object ds ending ∧ p.enter = .ok inner ∧
        members f inner ds = .ok vs ∧ p.closeObject ending = .ok () ∧ Dict.ofList vs = v := by
  cases d with
  | object ds ending =>
    simp only [dict, bind_eq_ok, pure_eq_ok]
    constructor
    · rintro ⟨inner, henter, vs, hmembers, ⟨⟩, hclose, rfl⟩
      exact ⟨ds, ending, inner, vs, rfl, henter, hmembers, hclose, rfl⟩
    · rintro ⟨ds, ending, inner, vs, heq, henter, hmembers, hclose, rfl⟩
      cases heq
      exact ⟨inner, henter, vs, hmembers, (), hclose, rfl⟩
  | _ => simp [dict]

theorem optional_of_ne_null {d : Document} (h : d ≠ .null) :
    optional f p d = some <$> f p d := by
  cases d with
  | null => exact absurd rfl h
  | _ => rfl

theorem orDefault_of_ne_null {d : Document} {default : α} (h : d ≠ .null) :
    orDefault default f p d = f p d := by
  cases d with
  | null => exact absurd rfl h
  | _ => rfl

theorem keys_of_members {p : Place} {ms : List (String × Document)} {vs : List (String × α)}
    (h : members f p ms = .ok vs) : vs.map Prod.fst = ms.map Prod.fst := by
  induction ms generalizing vs with
  | nil =>
    cases h
    rfl
  | cons m rest ih =>
    obtain ⟨v, vs, -, hrest, rfl⟩ := members_cons_eq_ok.1 h
    rw [List.map_cons, List.map_cons, ih hrest]

/-! ## Any value -/

theorem jsonItems_eq_items (ds : List Document) :
    ∀ (p : Place) (i : Nat), jsonItems p i ds = items json p i ds := by
  induction ds with
  | nil => exact fun _ _ => rfl
  | cons d rest ih =>
    intro p i
    simp only [jsonItems, items, ih]

theorem jsonFields_eq_members (p : Place) (ds : List (String × Document)) :
    jsonFields p ds = members json p ds := by
  induction ds with
  | nil => rfl
  | cons m rest ih => simp only [jsonFields, members, ih]

/-- Any array is read as the list of its items. -/
theorem json_array (p : Place) (ds : List Document) (ending : ArrayEnding) :
    json p (.array ds ending) = Json.array <$> list json p (.array ds ending) := by
  simp only [json, list, jsonItems_eq_items, map_bind, map_pure]

/-- Any object is read as the dictionary of its members. -/
theorem json_object (p : Place) (ds : List (String × Document)) (ending : ObjectEnding) :
    json p (.object ds ending) = Json.ofDict <$> dict json p (.object ds ending) := by
  simp only [json, dict, jsonFields_eq_members, Json.ofFields, map_bind, map_pure]

end Decoder

/-! ## Values with known fields -/

namespace Layout

variable {σ : Type} {l : Layout σ} {p inner : Place}

/-- The keys of a layout. -/
def names (l : Layout σ) : List String := l.map Field.name

theorem find?_eq_none_iff {k : String} : l.find? k = none ↔ k ∉ l.names := by
  simp [find?, names]

theorem find?_eq_some {k : String} {f : Field σ} (h : l.find? k = some f) :
    f ∈ l ∧ f.name = k :=
  ⟨List.mem_of_find?_eq_some h, by simpa using List.find?_some h⟩

/-- Further members are read into the draft that the first ones have left. -/
theorem readMembers_append (xs ys : List (String × Document)) (s : σ) :
    l.readMembers p inner s (xs ++ ys) =
      l.readMembers p inner s xs >>= fun t => l.readMembers p inner t ys := by
  induction xs generalizing s with
  | nil => rfl
  | cons m rest ih =>
    obtain ⟨k, d⟩ := m
    rw [List.cons_append, readMembers, readMembers]
    cases l.find? k with
    | none =>
      cases d.passing with
      | none => exact ih s
      | some flaw => rfl
    | some f =>
      by_cases hset : f.isSet s = true
      · simp only [hset, if_true]
        rfl
      · simp only [hset, Bool.false_eq_true, if_false, ih, bind_assoc]

theorem readMembers_append_eq_ok (xs ys : List (String × Document)) {s t : σ} :
    l.readMembers p inner s (xs ++ ys) = .ok t ↔
      ∃ u, l.readMembers p inner s xs = .ok u ∧ l.readMembers p inner u ys = .ok t := by
  rw [readMembers_append, Decoder.bind_eq_ok]

theorem readMembers_unknown {k : String} (hk : l.find? k = none) {d : Document} {s t : σ} :
    l.readMembers p inner s [(k, d)] = .ok t ↔ d.passing = none ∧ s = t := by
  rw [readMembers]
  simp only [hk]
  cases d.passing with
  | none => simp [readMembers]
  | some flaw => simp

theorem readMembers_known {k : String} {f : Field σ} (hk : l.find? k = some f) {d : Document}
    {s t : σ} : l.readMembers p inner s [(k, d)] = .ok t ↔
      f.isSet s = false ∧ f.read s (inner.child (.key k)) d = .ok t := by
  rw [readMembers]
  simp only [hk]
  cases f.isSet s <;> simp [readMembers]

/-- **An object with known keys has been read** if it could be opened and its members have been
read. -/
theorem read_object_eq_ok {blank : σ} {ms : List (String × Document)} {t : σ} :
    l.read blank p (.object ms .closed) = .ok t ↔
      ∃ inner, p.enter = .ok inner ∧ l.readMembers p inner blank ms = .ok t := by
  simp only [Layout.read, Decoder.bind_eq_ok, Decoder.pure_eq_ok]
  constructor
  · rintro ⟨inner, henter, draft, hmembers, -, -, rfl⟩
    exact ⟨inner, henter, hmembers⟩
  · rintro ⟨inner, henter, hmembers⟩
    exact ⟨inner, henter, t, hmembers, (), rfl, rfl⟩

theorem closeObject_eq_ok_iff {draft : σ} {ending : ObjectEnding} :
    l.closeObject p draft ending = .ok () ↔ ending = .closed := by
  cases ending with
  | noColon k flaw =>
    simp only [closeObject]
    split <;> simp [Place.closeObject]
  | _ => simp [closeObject, Place.closeObject]

/-- An object that is read is closed. -/
theorem read_object_eq_ok_iff {blank : σ} {ms : List (String × Document)} {ending : ObjectEnding}
    {t : σ} : l.read blank p (.object ms ending) = .ok t ↔
      ending = .closed ∧ ∃ inner, p.enter = .ok inner ∧ l.readMembers p inner blank ms = .ok t := by
  simp only [Layout.read, Decoder.bind_eq_ok, Decoder.pure_eq_ok]
  constructor
  · rintro ⟨inner, henter, draft, hmembers, ⟨⟩, hclose, rfl⟩
    exact ⟨closeObject_eq_ok_iff.1 hclose, inner, henter, hmembers⟩
  · rintro ⟨rfl, inner, henter, hmembers⟩
    exact ⟨inner, henter, t, hmembers, (), rfl, rfl⟩

/-! ### Fields without keys -/

theorem readItems_nil {ending : ArrayEnding} {i : Nat} {s t : σ} :
    readItems p inner ending i s [] [] = .ok t ↔ ending = .closed ∧ s = t := by
  cases ending <;> simp [readItems, Place.closeArray]

/-- Fields for which there are no items are left out. -/
theorem readItems_missing {ending : ArrayEnding} {i : Nat} {s t : σ} {f : Field σ}
    {fs : Layout σ} :
    readItems p inner ending i s (f :: fs) [] = .ok t ↔ ending = .closed ∧ s = t := by
  cases ending <;> simp [readItems, Place.closeArray]

/-- There must be a field for every item. -/
theorem readItems_surplus {ending : ArrayEnding} {i : Nat} {s t : σ} {d : Document}
    {ds : List Document} : readItems p inner ending i s [] (d :: ds) ≠ .ok t :=
  Place.fail_ne_ok p _ t

theorem readItems_cons {ending : ArrayEnding} {i : Nat} {s t : σ} {f : Field σ} {fs : Layout σ}
    {d : Document} {ds : List Document} :
    readItems p inner ending i s (f :: fs) (d :: ds) = .ok t ↔
      ∃ u, f.read s (inner.child (.index i)) d = .ok u ∧
        readItems p inner ending (i + 1) u fs ds = .ok t :=
  Decoder.bind_eq_ok

end Layout

end AccessPolicy
