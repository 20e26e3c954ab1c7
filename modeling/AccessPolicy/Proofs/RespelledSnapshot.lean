import AccessPolicy.Principal
import AccessPolicy.Proofs.Json.Respelling
import Mathlib.Data.Set.List
import Mathlib.Logic.Relation

/-!
# Snapshots that are spelled in different ways

Snapshots are written by other programs, and these write the same data in different ways: the
keys of an object stand in any order, there are keys for somebody else, what is absent is left out
or written as `null`, and the roles are listed as they come. None of this shows in the principal
that is loaded. Only the identifier has to be there.

A step changes the spelling at one place of a snapshot, and a respelled snapshot is at the end of
any number of steps.

## Main definitions

* `FieldPolicy.Respells`, `Permission.Respells`, `Principal.Respells` — one step, at a policy, a
  permission and a snapshot.
* `Principal.LacksIdentifier` — a snapshot without an identifier.

## Main statements

* `FieldPolicy.survives_decoder`, `Permission.survives_decoder`, `Principal.survives_decoder` — one
  step does not show.
* `Principal.decoder_respelled` — a respelled snapshot is loaded as the same principal, and one
  without an identifier is never loaded.
-/
namespace AccessPolicy

open Decoder (Survives)

/-! ## Policies -/

namespace FieldPolicy

/-- A policy is spelled in another way. Both of its keys may be left out. -/
def Respells : Document → Document → Prop := layout.Respells layout.names fun _ _ _ => False

theorem isOrderless_layout : layout.IsOrderless where
  independent := by
    simp only [layout, List.pairwise_cons, List.mem_singleton, forall_eq, List.not_mem_nil,
      false_implies, implies_true, List.Pairwise.nil, and_true]
    exact Field.independent_of (fun _ _ => rfl) (fun _ _ => rfl) fun _ _ _ => rfl
  isSet := by
    simp only [layout, List.forall_mem_cons, List.not_mem_nil, false_implies, implies_true,
      and_true]
    exact ⟨Field.isSet_of fun _ _ => rfl, Field.isSet_of fun _ _ => rfl⟩

theorem tolerates_layout :
    layout.Tolerates {} (fun s => (⟨s.allowed.join, s.denied.join⟩ : FieldPolicy)) layout.names
      fun _ _ _ => False where
  orderless := isOrderless_layout
  isSet_blank := by simp [layout, Field.of]
  null := by
    simp only [Layout.names, layout, Field.of, List.map_cons, List.map_nil, List.forall_mem_cons,
      List.not_mem_nil, false_implies, implies_true, and_true]
    exact ⟨⟨_, rfl, Field.exists_read_null (fun _ => rfl) fun s hs => by simp [hs]⟩,
      ⟨_, rfl, Field.exists_read_null (fun _ => rfl) fun s hs => by simp [hs]⟩⟩
  member := nofun

/-- **The spelling of a policy** does not show. -/
theorem survives_decoder {d d' : Document} (h : Respells d d') : Survives decoder d d' :=
  tolerates_layout.survives h

end FieldPolicy

/-! ## Permissions -/

namespace Permission

/-- Inside a permission the policy is spelled in another way, or the conditions, or some object
inside them, list their members in another order. -/
inductive RespellsMember : String → Document → Document → Prop
  | fields {d d' : Document} (h : FieldPolicy.Respells d d') : RespellsMember "fields" d d'
  | conditions {d d' : Document} (h : d.Reorders d') : RespellsMember "conditions" d d'

/-- A permission is spelled in another way. All of its keys may be left out. -/
def Respells : Document → Document → Prop := layout.Respells layout.names RespellsMember

theorem isOrderless_layout : layout.IsOrderless where
  independent := by
    simp only [layout, List.pairwise_cons, List.forall_mem_cons, List.not_mem_nil,
      false_implies, implies_true, List.Pairwise.nil, and_true]
    and_intros <;>
      exact Field.independent_of (fun _ _ => rfl) (fun _ _ => rfl) fun _ _ _ => rfl
  isSet := by
    simp only [layout, List.forall_mem_cons, List.not_mem_nil, false_implies, implies_true,
      and_true]
    and_intros <;> exact Field.isSet_of fun _ _ => rfl

theorem tolerates_layout :
    layout.Tolerates {} Draft.finish layout.names RespellsMember where
  orderless := isOrderless_layout
  isSet_blank := by simp [layout, Field.of]
  null := by
    simp only [Layout.names, layout, Field.of, List.map_cons, List.map_nil, List.forall_mem_cons,
      List.not_mem_nil, false_implies, implies_true, and_true]
    and_intros <;>
      exact ⟨_, rfl, Field.exists_read_null (fun _ => rfl) fun s hs => by simp [Draft.finish, hs]⟩
  member := by
    intro k d d' h
    cases h with
    | fields h =>
      have hpolicy := (FieldPolicy.survives_decoder h).optional h.ne_null
      exact ⟨_, rfl, Field.exists_read_of_survives hpolicy⟩
    | conditions h =>
      have hdict : Survives (.dict Condition.decoder) d d' :=
        Decoder.survives_dict (fun _ _ h => (Decoder.survives_json h).map) h
      exact ⟨_, rfl, Field.exists_read_of_survives (hdict.optional h.ne_null)⟩

/-- **The spelling of a permission** does not show. -/
theorem survives_decoder {d d' : Document} (h : Respells d d') : Survives decoder d d' :=
  tolerates_layout.survives h

end Permission

/-! ## Snapshots -/

namespace Principal

/-- Inside a snapshot the roles are listed in another order or more or less often, one of the
permissions is spelled in another way, or the attributes, or some object inside them, list their
members in another order. -/
inductive RespellsMember : String → Document → Document → Prop
  | roles {ds ds' : List Document} (h : ∀ d, d ∈ ds ↔ d ∈ ds') :
      RespellsMember "roles" (.array ds .closed) (.array ds' .closed)
  | permission {d d' : Document} (before after : List Document) (h : Permission.Respells d d') :
      RespellsMember "permissions" (.array (before ++ d :: after) .closed)
        (.array (before ++ d' :: after) .closed)
  | attributes {d d' : Document} (h : d.Reorders d') : RespellsMember "attributes" d d'

/-- A snapshot is spelled in another way. All keys but the identifier's may be left out. -/
def Respells : Document → Document → Prop :=
  layout.Respells (layout.names.erase "id") RespellsMember

theorem isOrderless_layout : layout.IsOrderless where
  independent := by
    simp only [layout, List.pairwise_cons, List.forall_mem_cons, List.not_mem_nil,
      false_implies, implies_true, List.Pairwise.nil, and_true]
    and_intros <;>
      exact Field.independent_of (fun _ _ => rfl) (fun _ _ => rfl) fun _ _ _ => rfl
  isSet := by
    simp only [layout, List.forall_mem_cons, List.not_mem_nil, false_implies, implies_true,
      and_true]
    and_intros <;> exact Field.isSet_of fun _ _ => rfl

/-! ### Roles -/

theorem text_eq_ok_iff {p : Place} {d : Document} {s : String} :
    Decoder.text p d = .ok s ↔ d = .string s := by
  cases d <;> simp [Decoder.text]

theorem items_text_eq_ok_iff {p : Place} {i : Nat} {ds : List Document} {names : List String} :
    Decoder.items .text p i ds = .ok names ↔ ds = names.map .string := by
  induction ds generalizing i names with
  | nil => cases names <;> simp [Decoder.items]
  | cons d rest ih =>
    rw [Decoder.items_cons_eq_ok]
    simp only [text_eq_ok_iff, ih]
    constructor
    · rintro ⟨s, rest, rfl, rfl, rfl⟩
      rfl
    · intro h
      obtain ⟨s, rest, rfl, rfl, rfl⟩ := List.map_eq_cons_iff.1 h.symm
      exact ⟨s, rest, rfl, rfl, rfl⟩

/-- Items that are all among texts are texts. -/
theorem exists_texts {ds : List Document} {names : List String}
    (h : ∀ d ∈ ds, d ∈ names.map Document.string) :
    ∃ names' : List String, ds = names'.map .string := by
  have hrange : ds ∈ Set.range (List.map Document.string) := by
    rw [Set.range_list_map]
    intro d hd
    obtain ⟨s, -, rfl⟩ := List.mem_map.1 (h d hd)
    exact ⟨s, rfl⟩
  obtain ⟨names', hnames'⟩ := hrange
  exact ⟨names', hnames'.symm⟩

/-- Roles are a set: lists with the same items are read as lists with the same names. -/
theorem exists_roles {ds ds' : List Document} (h : ∀ d, d ∈ ds ↔ d ∈ ds') {p : Place}
    {names : List String} (hread : Decoder.list .text p (.array ds .closed) = .ok names) :
    ∃ names', Decoder.list .text p (.array ds' .closed) = .ok names' ∧
      NameSet.ofList names' = NameSet.ofList names := by
  obtain ⟨_, _, inner, heq, henter, hitems, hclose⟩ := Decoder.list_eq_ok_iff.1 hread
  cases heq
  obtain rfl := items_text_eq_ok_iff.1 hitems
  obtain ⟨names', rfl⟩ := exists_texts fun d hd => (h d).2 hd
  refine ⟨names', Decoder.list_eq_ok_iff.2
    ⟨_, _, inner, rfl, henter, items_text_eq_ok_iff.2 rfl, hclose⟩, NameSet.ext_has ?_⟩
  intro name
  simpa [NameSet.has_ofList] using (h (.string name)).symm

/-! ### One step -/

theorem tolerates_layout :
    layout.Tolerates {} Draft.finish (layout.names.erase "id") RespellsMember where
  orderless := isOrderless_layout
  isSet_blank := by simp [layout, Field.of]
  null := by
    have hnames : layout.names.erase "id" = ["email", "department", "location", "roles",
        "isSuperuser", "permissions", "attributes"] := by decide
    simp only [hnames, List.forall_mem_cons, List.not_mem_nil, false_implies, implies_true,
      and_true]
    and_intros <;>
      exact ⟨_, rfl, Field.exists_read_null (fun _ => rfl) fun s hs =>
        funext fun p => by simp [Draft.finish, hs]⟩
  member := by
    intro k d d' h
    cases h with
    | roles h =>
      refine ⟨_, rfl, ?_⟩
      intro s p t ht
      obtain ⟨names, hnames, rfl⟩ := Decoder.map_eq_ok.1 ht
      obtain ⟨names', hnames', hset⟩ := exists_roles h hnames
      exact ⟨_, Decoder.map_eq_ok.2 ⟨names', hnames', rfl⟩,
        funext fun p => by simp [Draft.finish, hset]⟩
    | permission before after h =>
      have hlist := (Permission.survives_decoder h).list before after
      exact ⟨_, rfl, Field.exists_read_of_survives (hlist.orDefault ⟨by simp, by simp⟩)⟩
    | attributes h =>
      have hdict : Survives (.dict Decoder.json) d d' :=
        Decoder.survives_dict (fun _ _ h => Decoder.survives_json h) h
      exact ⟨_, rfl, Field.exists_read_of_survives (hdict.orDefault h.ne_null)⟩

/-- **The spelling of a snapshot** does not show. -/
theorem survives_decoder {d d' : Document} (h : Respells d d') : Survives decoder d d' := by
  intro p v hv
  obtain ⟨draft, hdraft, hfinish⟩ := Decoder.bind_eq_ok.1 hv
  obtain ⟨draft', hdraft', heq⟩ := tolerates_layout.read h hdraft
  exact Decoder.bind_eq_ok.2 ⟨draft', hdraft', by rw [heq, hfinish]⟩

/-- Whatever is respelled in a permission is respelled in the snapshot. -/
theorem respells_permission {d d' : Document} (before after : List (String × Document))
    (left right : List Document) (h : Relation.ReflTransGen Permission.Respells d d') :
    Relation.ReflTransGen Respells
      (.object (before ++ ("permissions", .array (left ++ d :: right) .closed) :: after) .closed)
      (.object (before ++ ("permissions", .array (left ++ d' :: right) .closed) :: after)
        .closed) := by
  induction h with
  | refl => exact .refl
  | tail _ hstep ih => exact ih.tail (.member before after (.permission left right hstep))

/-! ### The identifier -/

/-- The identifier is left out or written as `null`, whether keys are written or not. -/
inductive LacksIdentifier : Document → Prop
  | absent {ms : List (String × Document)} (h : "id" ∉ ms.map Prod.fst) :
      LacksIdentifier (.object ms .closed)
  | null {ms : List (String × Document)} (h : ("id", .null) ∈ ms) :
      LacksIdentifier (.object ms .closed)
  | absentItem : LacksIdentifier (.array [] .closed)
  | nullItem (rest : List Document) : LacksIdentifier (.array (.null :: rest) .closed)

theorem identifier_null (p : Place) (id : String) : identifier p .null ≠ .ok id := by
  simp [identifier, Decoder.json]

/-- **A snapshot without an identifier** is never loaded. -/
theorem decoder_ne_ok_of_lacksIdentifier {p : Place} {d : Document} (h : LacksIdentifier d)
    (v : Principal) : decoder p d ≠ .ok v := by
  intro hv
  obtain ⟨draft, hdraft, hfinish⟩ := Decoder.bind_eq_ok.1 hv
  cases h with
  | absent h =>
    obtain ⟨inner, -, hmembers⟩ := Layout.read_object_eq_ok.1 hdraft
    have hset : draft.id.isSome = false :=
      Layout.isSet_of_readMembers isOrderless_layout rfl h hmembers
    rw [Option.isSome_eq_false_iff, Option.isNone_iff_eq_none] at hset
    simp [Draft.finish, hset] at hfinish
  | null h =>
    obtain ⟨inner, -, hmembers⟩ := Layout.read_object_eq_ok.1 hdraft
    obtain ⟨before, after, rfl⟩ := List.append_of_mem h
    obtain ⟨s, -, hlast⟩ := (Layout.readMembers_last isOrderless_layout).1 hmembers
    obtain ⟨-, hread⟩ := (Layout.readMembers_known rfl).1 hlast
    obtain ⟨id, hid, -⟩ := Decoder.map_eq_ok.1 hread
    exact identifier_null _ id hid
  | absentItem =>
    obtain ⟨inner, -, hitems⟩ := Decoder.bind_eq_ok.1 hdraft
    cases hitems
    simp [Draft.finish] at hfinish
  | nullItem rest =>
    obtain ⟨inner, -, hitems⟩ := Decoder.bind_eq_ok.1 hdraft
    obtain ⟨s, hread, -⟩ := Decoder.bind_eq_ok.1 hitems
    obtain ⟨id, hid, -⟩ := Decoder.map_eq_ok.1 hread
    exact identifier_null _ id hid

/-- **Spelling does not matter.** Whatever principal a snapshot is loaded as, it is loaded as the
same principal after any number of respellings, so the principal is also saved in the same way,
has the same context and gets the same answers. A snapshot without an identifier is never
loaded. -/
theorem decoder_respelled :
    (∀ ⦃p d d' v⦄, Relation.ReflTransGen Respells d d' → decoder p d = .ok v →
      decoder p d' = .ok v) ∧
    ∀ ⦃p d⦄, LacksIdentifier d → ∀ v, decoder p d ≠ .ok v := by
  refine ⟨?_, fun p d h v => decoder_ne_ok_of_lacksIdentifier h v⟩
  intro p d d' v hsteps hv
  induction hsteps with
  | refl => exact hv
  | tail _ hstep ih => exact survives_decoder hstep ih

/-! ### Two spellings of one snapshot -/

/-- A permission that says no more than it has to. -/
def tersePermission : Document :=
  .object
    [ ("entityType", .string "vehicles"),
      ("actions", .array [.string "read"] .closed),
      ("fields", .object [("denied", .array [.string "price"] .closed)] .closed),
      ("conditions", .object
        [ ("team", .object [("eq", .string "{user.team}")] .closed),
          ("sold", .object [("ne", .bool true)] .closed) ] .closed) ]
    .closed

/-- The same permission from another program. -/
def wordyPermission : Document :=
  .object
    [ ("entityType", .string "vehicles"),
      ("actions", .array [.string "read"] .closed),
      ("fields", .object
        [("allowed", .null), ("denied", .array [.string "price"] .closed)] .closed),
      ("note", .ofJson (.array [.null])),
      ("conditions", .object
        [ ("sold", .object [("ne", .bool true)] .closed),
          ("team", .object [("eq", .string "{user.team}")] .closed) ] .closed) ]
    .closed

/-- A snapshot that says no more than it has to. -/
def terseSnapshot : Document :=
  .object
    [ ("id", .string "u-1"),
      ("roles", .array [.string "clerk", .string "auditor"] .closed),
      ("permissions", .array [tersePermission] .closed),
      ("attributes", .object [("team", .string "blue"), ("trained", .bool true)] .closed),
      ("location", .null) ]
    .closed

/-- The same snapshot from another program. -/
def wordySnapshot : Document :=
  .object
    [ ("attributes", .object [("trained", .bool true), ("team", .string "blue")] .closed),
      ("permissions", .array [wordyPermission] .closed),
      ("roles", .array [.string "auditor", .string "clerk", .string "auditor"] .closed),
      ("id", .string "u-1") ]
    .closed

theorem respells_wordyPermission :
    Relation.ReflTransGen Permission.Respells tersePermission wordyPermission := by
  have hfields : FieldPolicy.Respells
      (.object [("denied", .array [.string "price"] .closed)] .closed)
      (.object [("allowed", .null), ("denied", .array [.string "price"] .closed)] .closed) :=
    .addNull [] [_] (by decide) (by decide)
  refine .head (.member [_, _] [_] (.fields hfields)) ?_
  have hnote := Document.passing_ofJson (.array [.null])
  refine .head (.unknown (k := "note") [_, _, _] [_] (by decide) hnote) ?_
  exact .single (.member [_, _, _, _] [] (.conditions (.permute (by decide) (.swap _ _ []))))

theorem respells_wordySnapshot :
    Relation.ReflTransGen Respells terseSnapshot wordySnapshot := by
  have hroles : RespellsMember "roles" (.array [.string "clerk", .string "auditor"] .closed)
      (.array [.string "auditor", .string "clerk", .string "auditor"] .closed) :=
    .roles fun d => by simp; grind
  refine .head (.dropNull (k := "location") [_, _, _, _] [] (by decide)) ?_
  refine .head (.member [_, _, _] [] (.attributes (.permute (by decide) (.swap _ _ [])))) ?_
  refine .head (.member [_] [_, _] hroles) ?_
  refine (respells_permission [_, _] [_] [] [] respells_wordyPermission).trans ?_
  exact .single (.permute (List.reverse_perm _).symm)

/-- Both snapshots are loaded as one principal, and neither would be without the identifier. -/
theorem decoder_wordySnapshot :
    (∃ v, decoder .root terseSnapshot = .ok v ∧ decoder .root wordySnapshot = .ok v) ∧
      ∀ v, decoder .root (.object [("id", .null)] .closed) ≠ .ok v := by
  obtain ⟨v, hv⟩ : ∃ v, decoder .root terseSnapshot = .ok v := ⟨_, rfl⟩
  exact ⟨⟨v, hv, decoder_respelled.1 respells_wordySnapshot hv⟩,
    decoder_respelled.2 (.null List.mem_cons_self)⟩

end Principal

end AccessPolicy
