import AccessPolicy.Proofs.Json.Gap
import AccessPolicy.Proofs.RespelledSnapshot
import AccessPolicy.Request
import Mathlib.Data.Set.Finite.Basic

/-!
# What a snapshot may hold for a field policy

A permission names its field policy under a key, and what stands there may be anything that other
programs write. This module says exactly which documents are a policy, and which one: nothing but
`null`, an object, and an array of at most two entries is. The array is the second form of any
value with known fields, which lists the fields without their keys, and those at the end may be
missing. So no list of field names is taken for a policy, except for the empty list. That one lacks
both fields of a policy and permits every field, as does an array of `null`s.

The policy is looked at inside a whole snapshot, with any other data around it and with or without
keys on each level.

## Main definitions

* `FieldPolicy.Writes` — the documents that are a policy, and which one.
* `Principal.PolicyGap` — a snapshot that lacks what is written for the policy of a permission.
* `Principal.setPolicy` — a principal with another policy in a permission.

## Main statements

* `FieldPolicy.optional_decoder_eq_ok_iff` — a policy is read exactly from the documents that
  write it.
* `Principal.decoder_policyGap_iff` — a snapshot is loaded exactly with such a document, with its
  policy in that permission; a policy is `null`, an object or a short array, and among the arrays
  there are four that permit every field.
-/
namespace AccessPolicy

open Decoder (Reaches)

variable {p inner : Place}

namespace FieldPolicy

/-! ## Documents that are policies -/

/-- A document writes a list of names, or says that there is none. -/
inductive WritesNames : Document → Option (List String) → Prop
  | absent : WritesNames .null none
  | names (names : List String) : WritesNames (.array (names.map .string) .closed) (some names)

/-- What is written for one of the two lists of a policy: nothing, or one document. -/
inductive WritesEntry : List Document → Option (List String) → Prop
  | missing : WritesEntry [] none
  | given {d : Document} {names : Option (List String)} (h : WritesNames d names) :
      WritesEntry [d] names

/-- The documents under a key. -/
def valuesAt (key : String) (ms : List (String × Document)) : List Document :=
  (ms.filter (·.1 = key)).map Prod.snd

/-- A document writes a policy, or says that there is none. -/
inductive Writes : Document → Option FieldPolicy → Prop
  | absent : Writes .null none
  /-- The lists stand under their keys, and what stands under other keys can be passed over. -/
  | keyed {ms : List (String × Document)} {allowed denied : Option (List String)}
      (hunknown : ∀ m ∈ ms, m.1 ∉ layout.names → m.2.passing = none)
      (hallowed : WritesEntry (valuesAt "allowed" ms) allowed)
      (hdenied : WritesEntry (valuesAt "denied" ms) denied) :
      Writes (.object ms .closed) (some ⟨allowed, denied⟩)
  /-- The lists are the entries of an array, and the last ones may be missing. -/
  | listed {items : List Document} {allowed denied : Option (List String)}
      (hallowed : WritesEntry (items.take 1) allowed)
      (hdenied : WritesEntry (items.drop 1) denied) :
      Writes (.array items .closed) (some ⟨allowed, denied⟩)

/-! ## What is read from them -/

variable {d : Document}

theorem names_eq_ok_iff (hlevels : 1 ≤ p.levels) {names : Option (List String)} :
    Decoder.optional (.list .text) p d = .ok names ↔ WritesNames d names := by
  by_cases hnull : d = .null
  · subst hnull
    simp only [Decoder.optional, Except.ok.injEq]
    constructor
    · rintro rfl
      exact .absent
    · rintro ⟨⟩
      rfl
  rw [Decoder.optional_of_ne_null hnull, Decoder.map_eq_ok]
  simp only [Decoder.list_eq_ok_iff, Principal.items_text_eq_ok_iff, Place.closeArray_eq_ok_iff]
  constructor
  · rintro ⟨names, ⟨_, _, inner, rfl, -, rfl, rfl⟩, rfl⟩
    exact .names names
  · intro h
    cases h with
    | absent => exact absurd rfl hnull
    | names names =>
      obtain ⟨inner, henter, -⟩ := Place.exists_enter hlevels
      exact ⟨names, ⟨_, _, inner, rfl, henter, rfl, rfl⟩, rfl⟩

@[simp] theorem valuesAt_cons_self {key : String} {ms : List (String × Document)} :
    valuesAt key ((key, d) :: ms) = d :: valuesAt key ms := by
  simp [valuesAt]

theorem valuesAt_cons_of_ne {k key : String} (hne : k ≠ key) {ms : List (String × Document)} :
    valuesAt key ((k, d) :: ms) = valuesAt key ms := by
  simp [valuesAt, hne]

/-- What the slot of a list holds after the documents for it have been read. -/
inductive Fills : Option (Option (List String)) → List Document →
    Option (Option (List String)) → Prop
  | keep (slot : Option (Option (List String))) : Fills slot [] slot
  | fill {d : Document} {names : Option (List String)} (h : WritesNames d names) :
      Fills none [d] (some names)

theorem writesEntry_iff {ds : List Document} {names : Option (List String)} :
    WritesEntry ds names ↔ ∃ slot, Fills none ds slot ∧ slot.join = names := by
  constructor
  · intro h
    cases h with
    | missing => exact ⟨none, .keep none, rfl⟩
    | given h => exact ⟨_, .fill h, rfl⟩
  · rintro ⟨slot, h, rfl⟩
    cases h with
    | keep => exact .missing
    | fill h => exact .given h

theorem fills_nil_iff {slot slot' : Option (Option (List String))} :
    Fills slot [] slot' ↔ slot = slot' := by
  constructor
  · rintro ⟨⟩
    rfl
  · rintro rfl
    exact .keep slot

/-- One more document fills an empty slot, and only then can be the only one. -/
theorem fills_cons_iff {ds : List Document} {slot slot' : Option (Option (List String))} :
    Fills slot (d :: ds) slot' ↔
      slot = none ∧ ∃ names, WritesNames d names ∧ Fills (some names) ds slot' := by
  constructor
  · intro h
    cases h with
    | fill h => exact ⟨rfl, _, h, .keep _⟩
  · rintro ⟨rfl, names, hnames, h⟩
    cases h with
    | keep => exact .fill hnames

theorem readMember_allowed_iff (hlevels : 1 ≤ inner.levels) {s t : Draft} :
    layout.readMembers p inner s [("allowed", d)] = .ok t ↔
      s.allowed = none ∧ ∃ names, WritesNames d names ∧ { s with allowed := some names } = t := by
  have hk : layout.find? "allowed" = some (.of "allowed" Draft.allowed
    (fun s v => { s with allowed := some v }) (.optional (.list .text))) := rfl
  have hchild : 1 ≤ (inner.child (.key "allowed")).levels := hlevels
  rw [Layout.readMembers_slot hk]
  simp only [names_eq_ok_iff hchild]

theorem readMember_denied_iff (hlevels : 1 ≤ inner.levels) {s t : Draft} :
    layout.readMembers p inner s [("denied", d)] = .ok t ↔
      s.denied = none ∧ ∃ names, WritesNames d names ∧ { s with denied := some names } = t := by
  have hk : layout.find? "denied" = some (.of "denied" Draft.denied
    (fun s v => { s with denied := some v }) (.optional (.list .text))) := rfl
  have hchild : 1 ≤ (inner.child (.key "denied")).levels := hlevels
  rw [Layout.readMembers_slot hk]
  simp only [names_eq_ok_iff hchild]

/-- **The members of a policy** are read if each list is written at most once and nothing else is
in the way. -/
theorem readMembers_eq_ok_iff (hlevels : 1 ≤ inner.levels) {ms : List (String × Document)}
    {s t : Draft} :
    layout.readMembers p inner s ms = .ok t ↔
      (∀ m ∈ ms, m.1 ∉ layout.names → m.2.passing = none) ∧
        Fills s.allowed (valuesAt "allowed" ms) t.allowed ∧
        Fills s.denied (valuesAt "denied" ms) t.denied := by
  induction ms generalizing s with
  | nil =>
    obtain ⟨allowed, denied⟩ := s
    obtain ⟨allowed', denied'⟩ := t
    simp only [Layout.readMembers, valuesAt, List.filter_nil, List.map_nil, fills_nil_iff,
      List.not_mem_nil, false_implies, implies_true, true_and, Except.ok.injEq, Draft.mk.injEq]
  | cons m rest ih =>
    obtain ⟨k, d⟩ := m
    refine (Layout.readMembers_append_eq_ok [(k, d)] rest).trans ?_
    simp only [ih, List.forall_mem_cons]
    by_cases hallowed : k = "allowed"
    · subst hallowed
      have hknown : "allowed" ∈ layout.names := by decide
      rw [valuesAt_cons_self, valuesAt_cons_of_ne (by decide), fills_cons_iff]
      simp only [readMember_allowed_iff hlevels]
      constructor
      · rintro ⟨_, ⟨hnone, names, hnames, rfl⟩, hrest, hallowed, hdenied⟩
        exact ⟨⟨absurd hknown, hrest⟩, ⟨hnone, names, hnames, hallowed⟩, hdenied⟩
      · rintro ⟨⟨-, hrest⟩, ⟨hnone, names, hnames, hallowed⟩, hdenied⟩
        exact ⟨_, ⟨hnone, names, hnames, rfl⟩, hrest, hallowed, hdenied⟩
    by_cases hdenied : k = "denied"
    · subst hdenied
      have hknown : "denied" ∈ layout.names := by decide
      rw [valuesAt_cons_self, valuesAt_cons_of_ne (by decide), fills_cons_iff]
      simp only [readMember_denied_iff hlevels]
      constructor
      · rintro ⟨_, ⟨hnone, names, hnames, rfl⟩, hrest, hallowed, hdenied⟩
        exact ⟨⟨absurd hknown, hrest⟩, hallowed, hnone, names, hnames, hdenied⟩
      · rintro ⟨⟨-, hrest⟩, hallowed, hnone, names, hnames, hdenied⟩
        exact ⟨_, ⟨hnone, names, hnames, rfl⟩, hrest, hallowed, hdenied⟩
    · have hunknown : k ∉ layout.names := by
        simp [Layout.names, layout, Field.of, hallowed, hdenied]
      rw [valuesAt_cons_of_ne hallowed, valuesAt_cons_of_ne hdenied]
      simp only [Layout.readMembers_unknown (Layout.find?_eq_none_iff.2 hunknown)]
      constructor
      · rintro ⟨_, ⟨hpassing, rfl⟩, hrest, hfills⟩
        exact ⟨⟨fun _ => hpassing, hrest⟩, hfills⟩
      · rintro ⟨⟨hpassing, hrest⟩, hfills⟩
        exact ⟨s, ⟨hpassing hunknown, rfl⟩, hrest, hfills⟩

/-- **The entries of a policy** are read if there is none after the two lists. -/
theorem readItems_eq_ok_iff (hlevels : 1 ≤ inner.levels) {items : List Document}
    {ending : ArrayEnding} {t : Draft} :
    Layout.readItems p inner ending 0 {} layout items = .ok t ↔
      ending = .closed ∧ Fills none (items.take 1) t.allowed ∧
        Fills none (items.drop 1) t.denied := by
  obtain ⟨allowed, denied⟩ := t
  have hchild : ∀ i, 1 ≤ (inner.child (.index i)).levels := fun _ => hlevels
  match items with
  | [] =>
    simp only [layout, Layout.readItems_missing, Draft.mk.injEq, List.take_nil, List.drop_nil,
      fills_nil_iff]
  | [a] =>
    simp only [layout, Layout.readItems_cons, Layout.readItems_missing, Field.of,
      Decoder.map_eq_ok, names_eq_ok_iff (hchild _), List.take_succ_cons, List.take_zero,
      List.drop_succ_cons, List.drop_zero, fills_cons_iff, fills_nil_iff, true_and]
    constructor
    · rintro ⟨_, ⟨names, hnames, rfl⟩, rfl, ⟨⟩⟩
      exact ⟨rfl, ⟨names, hnames, rfl⟩, rfl⟩
    · rintro ⟨rfl, ⟨names, hnames, rfl⟩, rfl⟩
      exact ⟨_, ⟨names, hnames, rfl⟩, rfl, rfl⟩
  | [a, b] =>
    simp only [layout, Layout.readItems_cons, Layout.readItems_nil, Field.of,
      Decoder.map_eq_ok, names_eq_ok_iff (hchild _), List.take_succ_cons, List.take_zero,
      List.drop_succ_cons, List.drop_zero, fills_cons_iff, fills_nil_iff, true_and]
    constructor
    · rintro ⟨_, ⟨names, hnames, rfl⟩, _, ⟨names', hnames', rfl⟩, rfl, ⟨⟩⟩
      exact ⟨rfl, ⟨names, hnames, rfl⟩, names', hnames', rfl⟩
    · rintro ⟨rfl, ⟨names, hnames, rfl⟩, names', hnames', rfl⟩
      exact ⟨_, ⟨names, hnames, rfl⟩, _, ⟨names', hnames', rfl⟩, rfl, rfl⟩
  | a :: b :: c :: rest =>
    simp [layout, Layout.readItems_cons, Layout.readItems_surplus, fills_cons_iff]

/-- **A policy is read** exactly from the documents that write it. -/
theorem optional_decoder_eq_ok_iff (hlevels : 2 ≤ p.levels) {policy : Option FieldPolicy} :
    Decoder.optional decoder p d = .ok policy ↔ Writes d policy := by
  obtain ⟨inner, henter, hinner⟩ := Place.exists_enter hlevels
  cases d with
  | null =>
    simp only [Decoder.optional, Except.ok.injEq]
    constructor
    · rintro rfl
      exact .absent
    · rintro ⟨⟩
      rfl
  | object ms ending =>
    rw [Decoder.optional_of_ne_null (by simp)]
    simp only [decoder, Decoder.map_eq_ok, Layout.read_object_eq_ok_iff, henter, Except.ok.injEq,
      exists_eq_left', readMembers_eq_ok_iff hinner]
    constructor
    · rintro ⟨_, ⟨draft, ⟨rfl, hunknown, hallowed, hdenied⟩, rfl⟩, rfl⟩
      exact .keyed hunknown (writesEntry_iff.2 ⟨_, hallowed, rfl⟩)
        (writesEntry_iff.2 ⟨_, hdenied, rfl⟩)
    · intro h
      cases h with
      | keyed hunknown hallowed hdenied =>
        obtain ⟨allowed, hfills, rfl⟩ := writesEntry_iff.1 hallowed
        obtain ⟨denied, hfills', rfl⟩ := writesEntry_iff.1 hdenied
        exact ⟨_, ⟨⟨allowed, denied⟩, ⟨rfl, hunknown, hfills, hfills'⟩, rfl⟩, rfl⟩
  | array items ending =>
    rw [Decoder.optional_of_ne_null (by simp)]
    simp only [decoder, Decoder.map_eq_ok, Layout.read, Decoder.bind_eq_ok, henter,
      Except.ok.injEq, exists_eq_left', readItems_eq_ok_iff hinner]
    constructor
    · rintro ⟨_, ⟨draft, ⟨rfl, hallowed, hdenied⟩, rfl⟩, rfl⟩
      exact .listed (writesEntry_iff.2 ⟨_, hallowed, rfl⟩) (writesEntry_iff.2 ⟨_, hdenied, rfl⟩)
    · intro h
      cases h with
      | listed hallowed hdenied =>
        obtain ⟨allowed, hfills, rfl⟩ := writesEntry_iff.1 hallowed
        obtain ⟨denied, hfills', rfl⟩ := writesEntry_iff.1 hdenied
        exact ⟨_, ⟨⟨allowed, denied⟩, ⟨rfl, hfills, hfills'⟩, rfl⟩, rfl⟩
  | _ =>
    rw [Decoder.optional_of_ne_null (by simp)]
    simp only [decoder, Layout.read, Decoder.map_eq_ok, Decoder.mismatch_ne_ok, false_and,
      exists_false, false_iff]
    intro h
    cases h

/-! ## What the documents look like -/

theorem writesNames_null_or_names {names : Option (List String)} (h : WritesNames d names) :
    d = .null ∨ ∃ names : List String, d = .array (names.map .string) .closed := by
  cases h with
  | absent => exact .inl rfl
  | names names => exact .inr ⟨names, rfl⟩

/-- **A policy is `null`, an object or a short array**, and each entry of the array is `null` or
lists names. -/
theorem Writes.shape {policy : Option FieldPolicy} (h : Writes d policy) :
    d = .null ∨ (∃ ms, d = .object ms .closed) ∨
      ∃ items, d = .array items .closed ∧ items.length ≤ 2 ∧ ∀ item ∈ items, item = .null ∨
        ∃ names : List String, item = .array (names.map .string) .closed := by
  cases h with
  | absent => exact .inl rfl
  | keyed => exact .inr (.inl ⟨_, rfl⟩)
  | @listed items allowed denied hallowed hdenied =>
    refine .inr (.inr ⟨items, rfl, ?_⟩)
    match items, hallowed, hdenied with
    | [], _, _ => simp
    | [a], .given ha, _ => simpa using writesNames_null_or_names ha
    | [a, b], .given ha, .given hb =>
      simpa using ⟨writesNames_null_or_names ha, writesNames_null_or_names hb⟩

/-- A policy permits every field if it has no list of allowed fields and denies none. -/
theorem permits_all_iff {allowed denied : Option (List String)} :
    (∀ field, permits (some ⟨allowed, denied⟩) field = true) ↔
      allowed = none ∧ (denied = none ∨ denied = some []) := by
  constructor
  · intro h
    constructor
    · cases allowed with
      | none => rfl
      | some names =>
        obtain ⟨field, hfield⟩ := Infinite.exists_notMem_finset names.toFinset
        have hpermits : field ∈ names := by
          simpa [permits] using (Bool.and_eq_true_iff.1 (h field)).2
        exact absurd (List.mem_toFinset.2 hpermits) hfield
    · match denied with
      | none => exact .inl rfl
      | some [] => exact .inr rfl
      | some (name :: rest) =>
        have hdenied : permits (some ⟨allowed, some (name :: rest)⟩) name = false := by
          simp [permits]
        exact absurd ((h name).symm.trans hdenied) (by decide)
  · rintro ⟨rfl, rfl | rfl⟩ field <;> simp [permits]

theorem Writes.permits_all_iff {items : List Document} {policy : Option FieldPolicy}
    (h : Writes (.array items .closed) policy) :
    (∀ field, permits policy field = true) ↔
      items ∈ [[], [.null], [.null, .null], [.null, .array [] .closed]] := by
  cases h with
  | listed hallowed hdenied =>
    rw [FieldPolicy.permits_all_iff]
    match items, hallowed, hdenied with
    | [], .missing, .missing => simp
    | [a], .given ha, .missing => cases ha <;> simp
    | [a, b], .given ha, .given hb => cases ha <;> cases hb <;> simp

/-- **The arrays that permit every field** are four. -/
theorem exists_writes_permits_all_iff {items : List Document} :
    (∃ policy, Writes (.array items .closed) policy ∧ ∀ field, permits policy field = true) ↔
      items ∈ [[], [.null], [.null, .null], [.null, .array [] .closed]] := by
  constructor
  · rintro ⟨policy, hwrites, hall⟩
    exact hwrites.permits_all_iff.1 hall
  · intro hmem
    obtain ⟨policy, hwrites⟩ : ∃ policy, Writes (.array items .closed) policy := by
      simp only [List.mem_cons, List.not_mem_nil, or_false] at hmem
      rcases hmem with rfl | rfl | rfl | rfl
      · exact ⟨_, .listed .missing .missing⟩
      · exact ⟨_, .listed (.given .absent) .missing⟩
      · exact ⟨_, .listed (.given .absent) (.given .absent)⟩
      · exact ⟨_, .listed (.given .absent) (.given (.names []))⟩
    exact ⟨policy, hwrites, hwrites.permits_all_iff.2 hmem⟩

end FieldPolicy

/-! ## Snapshots -/

/-- A permission with another policy, or none. -/
def Permission.setPolicy (p : Permission) (policy : Option FieldPolicy) : Permission :=
  { p with fields := policy }

namespace Principal

/-- A principal with another policy, or none, in one of its permissions. -/
def setPolicy (p : Principal) (i : Nat) (policy : Option FieldPolicy) : Principal :=
  { p with permissions := p.permissions.modify i (·.setPolicy policy) }

@[simp] theorem length_permissions_setPolicy (w : Principal) (i : Nat)
    (policy : Option FieldPolicy) :
    (w.setPolicy i policy).permissions.length = w.permissions.length :=
  List.length_modify ..

/-- Of two policies that are set at one place, the later one stays. -/
@[simp] theorem setPolicy_setPolicy (w : Principal) (i : Nat)
    (policy policy' : Option FieldPolicy) :
    (w.setPolicy i policy).setPolicy i policy' = w.setPolicy i policy' := by
  simp only [setPolicy, List.modify_modify_eq]
  rfl

/-- A snapshot that lacks what is written for the policy of the permission at an index. -/
inductive PolicyGap : Nat → (Document → Document) → Prop
  | mk {snapshot permission : Document → Document} (before after : List Document)
      (hsnapshot : layout.Gap "permissions" snapshot)
      (hpermission : Permission.layout.Gap "fields" permission) :
      PolicyGap before.length fun d =>
        snapshot (.array (before ++ permission d :: after) .closed)

variable {gap : Document → Document} {i : Nat}

theorem reaches_fields (h : Permission.layout.Gap "fields" gap) :
    Reaches Permission.decoder gap (.optional FieldPolicy.decoder) 1
      fun put => ∃ w : Permission, put = w.setPolicy := by
  have hread := h.reaches Permission.isOrderless_layout (by decide) rfl {}
  refine (hread.map Permission.Draft.finish).mono ?_
  rintro _ ⟨_, ⟨u, rfl⟩, rfl⟩
  exact ⟨u.finish, rfl⟩

theorem reaches_permissions (h : layout.Gap "permissions" gap) :
    Reaches decoder gap (.orDefault [] (.list Permission.decoder)) 1
      fun put => ∃ w : Principal, put = fun permissions => { w with permissions } := by
  have hread := h.reaches isOrderless_layout (by decide) rfl {}
  refine hread.check ?_
  rintro p _ ⟨u, rfl⟩
  -- Only a missing identifier makes the rest fail.
  cases hid : u.id with
  | none => exact .inl fun permissions v => by simp [Draft.finish]
  | some id =>
    obtain ⟨w, hw⟩ : ∃ w, u.finish p = .ok w := by
      rw [Draft.finish, hid]
      exact ⟨_, rfl⟩
    refine .inr ⟨_, ⟨w, rfl⟩, fun permissions => ?_⟩
    simp only [Draft.finish, hid, Except.ok.injEq] at hw ⊢
    rw [← hw, Option.getD_some]

/-- **The policy inside a snapshot** is read three containers further down, and put into the
permission. -/
theorem reaches_policy (h : PolicyGap i gap) :
    Reaches decoder gap (.optional FieldPolicy.decoder) 3
      fun put => ∃ w : Principal, i < w.permissions.length ∧ put = w.setPolicy i := by
  cases h with
  | @mk snapshot permission before after hsnapshot hpermission =>
    have hitem := (Decoder.reaches_list Permission.decoder before after).orDefault [] (by simp)
    have hinner := hitem.comp (reaches_fields hpermission)
    refine ((reaches_permissions hsnapshot).comp hinner).mono ?_
    rintro _ ⟨_, _, ⟨w, rfl⟩, ⟨_, _, ⟨left, right, hlength, rfl⟩, ⟨m, rfl⟩, rfl⟩, rfl⟩
    refine ⟨{ w with permissions := left ++ m :: right }, by simp; omega, ?_⟩
    funext policy
    have hmodify : (left ++ m :: right).modify before.length (·.setPolicy policy) =
        left ++ m.setPolicy policy :: right := by
      rw [← hlength]
      exact List.modifyTailIdx_add _ 0 left (m :: right)
    simp only [setPolicy, hmodify, Function.comp_apply]

/-- **What is taken for a policy.** Whatever stands for the policy of a permission, the snapshot is
loaded exactly if that writes a policy and the snapshot is loaded without one, and the permission
has this policy then. Only `null`, objects and arrays of at most two entries write one, each entry
`null` or a list of names, and among the arrays exactly four write a policy that permits every
field. -/
theorem decoder_policyGap_iff (h : PolicyGap i gap) :
    (∀ d v, decoder .root (gap d) = .ok v ↔ ∃ policy w, FieldPolicy.Writes d policy ∧
      decoder .root (gap .null) = .ok w ∧ i < w.permissions.length ∧ v = w.setPolicy i policy) ∧
    (∀ d policy, FieldPolicy.Writes d policy → d = .null ∨ (∃ ms, d = .object ms .closed) ∨
      ∃ items, d = .array items .closed ∧ items.length ≤ 2 ∧ ∀ item ∈ items, item = .null ∨
        ∃ names : List String, item = .array (names.map .string) .closed) ∧
    ∀ items, (∃ policy, FieldPolicy.Writes (.array items .closed) policy ∧
        ∀ field, FieldPolicy.permits policy field = true) ↔
      items ∈ [[], [.null], [.null, .null], [.null, .array [] .closed]] := by
  refine ⟨?_, fun d policy hd => hd.shape, fun items => FieldPolicy.exists_writes_permits_all_iff⟩
  intro d v
  rcases reaches_policy h .root with hrefuse | ⟨q, _, hq, ⟨w, hi, rfl⟩, hread⟩
  · constructor
    · exact fun hv => absurd hv (hrefuse d v)
    · rintro ⟨policy, w, -, hw, -⟩
      exact absurd hw (hrefuse .null w)
  · have hlevels : 2 ≤ q.levels := by
      have hroot : Place.root.levels = 127 := rfl
      omega
    rw [hread d v]
    simp only [hread .null, FieldPolicy.optional_decoder_eq_ok_iff hlevels]
    constructor
    · rintro ⟨policy, hd, rfl⟩
      exact ⟨policy, w.setPolicy i none, hd, ⟨none, .absent, rfl⟩, by simpa using hi, by simp⟩
    · rintro ⟨policy, _, hd, ⟨_, ⟨⟩, rfl⟩, -, rfl⟩
      exact ⟨policy, hd, by simp⟩

/-! ### One snapshot -/

/-- A snapshot with one permission that lacks what is written for its policy. -/
def employeesGap (d : Document) : Document :=
  .object
    [ ("id", .string "u-1"),
      ("permissions", .array
        [ .object
            [ ("entityType", .string "employees"),
              ("actions", .array [.string "read"] .closed),
              ("fields", d) ] .closed ] .closed) ]
    .closed

theorem policyGap_employeesGap : PolicyGap 0 employeesGap :=
  .mk [] [] (.member [_] []) (.member [_, _] [])

/-- A denied field is read from an object, and a list of names is refused. -/
theorem decoder_employeesGap :
    (∃ v, decoder .root (employeesGap (.object [("denied", .array [.string "ssn"] .closed)]
      .closed)) = .ok v ∧ v.permissions.map Permission.fields = [some ⟨none, some ["ssn"]⟩]) ∧
      ∀ v, decoder .root (employeesGap (.array [.string "ssn"] .closed)) ≠ .ok v := by
  obtain ⟨hload, hshape, -⟩ := decoder_policyGap_iff policyGap_employeesGap
  constructor
  · have hwrites : FieldPolicy.Writes (.object [("denied", .array [.string "ssn"] .closed)] .closed)
        (some ⟨none, some ["ssn"]⟩) :=
      .keyed (by decide) .missing (.given (.names ["ssn"]))
    exact ⟨_, (hload _ _).2 ⟨_, _, hwrites, rfl, by decide, rfl⟩, rfl⟩
  · intro v hv
    obtain ⟨policy, w, hwrites, -⟩ := (hload _ v).1 hv
    simpa using hshape _ policy hwrites

/-- The empty list is taken for a policy that permits every field. -/
theorem seesField_emptyPolicy :
    ∃ v, decoder .root (employeesGap (.array [] .closed)) = .ok v ∧
      ∀ field, Request.seesField ⟨v, "read", "employees"⟩ field = true :=
  ⟨_, rfl, fun _ => rfl⟩

end Principal

end AccessPolicy
