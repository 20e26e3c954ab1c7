import AccessPolicy.Proofs.Json.Canonical

/-!
# Written values that are read back

A decoder reads a written value as something if it does so wherever the containers of the value
can still open. As for what decoders give, this is put together of the same for the parts: a list
that is written item by item is read item by item, an object value by value, and a value with
known fields field by field, in whatever order its keys are written.

## Main definitions

* `Decoder.Reads` — a decoder reads a written value as something.
* `Layout.ReadsFields` — the fields of a written object are read into a draft, one by one.

## Main statements

* `Decoder.Reads.list`, `Decoder.Reads.dict` — arrays and objects are read as their parts are.
* `Layout.reads_read` — a value with known fields is read as its fields are.
-/
namespace AccessPolicy

namespace Decoder

variable {α β γ : Type} {f : Decoder α} {v : Json} {a : α}

/-- At places with enough levels, the decoder reads a written value as `a`. -/
def Reads (f : Decoder α) (v : Json) (a : α) : Prop :=
  ∀ ⦃p⦄, v.depth ≤ p.levels → f p (.ofJson v) = .ok a

theorem reads_json (v : Json) : Reads json v v.canonical := fun p hp => json_ofJson v p hp

theorem reads_text (s : String) : Reads text (.string s) s := fun _ _ => rfl

theorem reads_bool (b : Bool) : Reads bool (.bool b) b := fun _ _ => rfl

namespace Reads

theorem map (h : f.Reads v a) (g : α → β) : Reads (fun p d => g <$> f p d) v (g a) := by
  intro p hp
  exact map_eq_ok.2 ⟨a, h hp, rfl⟩

theorem ofJson_ne_null (hv : v ≠ .null) : Document.ofJson v ≠ .null := by
  cases v with
  | null => exact absurd rfl hv
  | _ => simp [Document.ofJson]

/-- A value with a default is read as itself if it is not absent. -/
theorem orDefault (h : f.Reads v a) (hv : v ≠ .null) (default : α) :
    (Decoder.orDefault default f).Reads v a := by
  intro p hp
  rw [orDefault_of_ne_null (ofJson_ne_null hv)]
  exact h hp

/-- **A value that may be absent** is read as what is there, or as nothing. -/
theorem optional {write : β → Json} {g : β → α} {o : Option β}
    (h : ∀ b, o = some b → f.Reads (write b) (g b)) (hwrite : ∀ b, write b ≠ .null) :
    (Decoder.optional f).Reads ((o.map write).getD .null) (o.map g) := by
  cases o with
  | none =>
    intro p _
    rfl
  | some b =>
    intro p hp
    rw [Option.map_some, Option.getD_some] at hp ⊢
    rw [optional_of_ne_null (ofJson_ne_null (hwrite b)), map_eq_ok]
    exact ⟨g b, h b rfl hp, rfl⟩

/-- A value that may be absent is read as itself if the one that is there is. -/
theorem optional_self {write : α → Json} {o : Option α}
    (h : ∀ b, o = some b → f.Reads (write b) b) (hwrite : ∀ b, write b ≠ .null) :
    (Decoder.optional f).Reads ((o.map write).getD .null) o := by
  have hread : (Decoder.optional f).Reads ((o.map write).getD .null) (o.map id) :=
    optional h hwrite
  rwa [Option.map_id, id_eq] at hread

theorem items {write : β → Json} {g : β → α} {bs : List β}
    (h : ∀ b ∈ bs, f.Reads (write b) (g b)) {p : Place}
    (hp : Json.depthItems (bs.map write) ≤ p.levels) (i : Nat) :
    Decoder.items f p i (Document.ofItems (bs.map write)) = .ok (bs.map g) := by
  induction bs generalizing i with
  | nil => rfl
  | cons b rest ih =>
    obtain ⟨hb, hrest⟩ := List.forall_mem_cons.1 h
    have hhead : (write b).depth ≤ p.levels := Nat.le_trans (Nat.le_max_left _ _) hp
    have htail : Json.depthItems (rest.map write) ≤ p.levels :=
      Nat.le_trans (Nat.le_max_right _ _) hp
    exact items_cons_eq_ok.2 ⟨_, _, hb hhead, ih hrest htail (i + 1), rfl⟩

/-- **An array** that is written item by item is read item by item. -/
theorem list {write : β → Json} {g : β → α} {bs : List β}
    (h : ∀ b ∈ bs, f.Reads (write b) (g b)) :
    (Decoder.list f).Reads (.array (bs.map write)) (bs.map g) := by
  intro p hp
  obtain ⟨inner, henter, hinner⟩ := Place.exists_enter hp
  exact list_eq_ok_iff.2 ⟨_, .closed, inner, rfl, henter, items h hinner 0, rfl⟩

/-- Texts are read as they are written. -/
theorem texts (texts : List String) : (Decoder.list text).Reads (.ofTexts texts) texts := by
  have hlist : (Decoder.list text).Reads (.ofTexts texts) (texts.map id) :=
    list fun s _ => reads_text s
  simpa using hlist

theorem members {write : β → Json} {g : β → α} {es : List (String × β)}
    (h : ∀ e ∈ es, f.Reads (write e.2) (g e.2)) {p : Place}
    (hp : Json.depthFields (es.map fun e => (e.1, write e.2)) ≤ p.levels) :
    Decoder.members f p (Document.ofFields (es.map fun e => (e.1, write e.2))) =
      .ok (es.map fun e => (e.1, g e.2)) := by
  induction es with
  | nil => rfl
  | cons e rest ih =>
    obtain ⟨he, hrest⟩ := List.forall_mem_cons.1 h
    have hhead : (write e.2).depth ≤ p.levels := Nat.le_trans (Nat.le_max_left _ _) hp
    have htail : Json.depthFields (rest.map fun e => (e.1, write e.2)) ≤ p.levels :=
      Nat.le_trans (Nat.le_max_right _ _) hp
    exact members_cons_eq_ok.2 ⟨_, _, he hhead, ih hrest htail, rfl⟩

/-- **An object** that is written value by value is read value by value. -/
theorem dict {write : β → Json} {g : β → α} {d : Dict β}
    (h : ∀ k b, d.get? k = some b → f.Reads (write b) (g b)) :
    (Decoder.dict f).Reads (.ofDict (d.map fun _ b => write b)) (d.map fun _ b => g b) := by
  intro p hp
  obtain ⟨inner, henter, hinner⟩ := Place.exists_enter hp
  have hmembers := members (fun e he => h e.1 e.2 (Dict.get?_eq_some_iff.2 he)) hinner
  have hofList : Dict.ofList (d.entries.map fun e => (e.1, g e.2)) = d.map fun _ b => g b := by
    rw [Dict.ofList_map fun _ b => g b, Dict.ofList_entries]
  exact dict_eq_ok_iff.2 ⟨_, .closed, inner, _, rfl, henter, hmembers, rfl, hofList⟩

end Reads

end Decoder

/-! ## Values with known fields -/

variable {σ : Type}

namespace Layout

/-- The fields of a written object are read into a draft, one after the other: each of them is
known, it is not set yet, and it is read. -/
inductive ReadsFields (l : Layout σ) : σ → List (String × Json) → σ → Prop
  | nil (draft : σ) : ReadsFields l draft [] draft
  | cons {draft next final : σ} {k : String} {v : Json} {rest : List (String × Json)}
      {fld : Field σ} (hfind : l.find? k = some fld) (hunset : fld.isSet draft = false)
      (h : Decoder.Reads (fld.read draft) v next) (hrest : ReadsFields l next rest final) :
      ReadsFields l draft ((k, v) :: rest) final

variable {l : Layout σ}

/-- One more field that is read by a decoder into an empty slot. -/
theorem ReadsFields.slot {α : Type} {name : String} {get : σ → Option α} {set : σ → α → σ}
    {f : Decoder α} {draft final : σ} {v : Json} {a : α} {rest : List (String × Json)}
    (hfind : l.find? name = some (.of name get set f)) (hunset : get draft = none)
    (h : f.Reads v a) (hrest : l.ReadsFields (set draft a) rest final) :
    l.ReadsFields draft ((name, v) :: rest) final := by
  refine .cons hfind ?_ (h.map (set draft)) hrest
  simp [Field.of, hunset]

theorem readMembers_of_readsFields {p inner : Place} {draft final : σ}
    {fields : List (String × Json)} (h : l.ReadsFields draft fields final)
    (hinner : Json.depthFields fields ≤ inner.levels) :
    l.readMembers p inner draft (Document.ofFields fields) = .ok final := by
  induction h with
  | nil draft => rfl
  | cons hfind hunset hread hrest ih =>
    have hhead := Nat.le_trans (Nat.le_max_left _ _) hinner
    have htail := Nat.le_trans (Nat.le_max_right _ _) hinner
    simp only [Document.ofFields, readMembers, hfind, hunset, Bool.false_eq_true, if_false]
    exact Decoder.bind_eq_ok.2 ⟨_, hread hhead, ih htail⟩

/-- **A value with known fields** is read as its fields are. -/
theorem reads_read {blank final : σ} {fields : List (String × Json)}
    (h : l.ReadsFields blank fields final) : (l.read blank).Reads (.object fields) final := by
  intro p hp
  obtain ⟨inner, henter, hinner⟩ := Place.exists_enter hp
  have hmembers := readMembers_of_readsFields (p := p) h hinner
  simp only [Document.ofJson, read, Decoder.bind_eq_ok, Decoder.pure_eq_ok]
  exact ⟨inner, henter, final, hmembers, (), rfl, rfl⟩

end Layout

end AccessPolicy
