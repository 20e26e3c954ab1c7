import AccessPolicy.Proofs.Predicate.Disjunction
import AccessPolicy.Proofs.ReloadedPermission
import AccessPolicy.Proofs.SameAnswers

/-!
# Principals that are loaded, saved and loaded again

A principal that was loaded may be saved and loaded again. The second principal need not be the
first one: conditions that were not understood may have other operands. But nobody can tell. It
is saved in the same way, it has the same context, and every request on its behalf gets the same
answers, down to the structure of the predicate.

Roles are a set, so a saved principal may list them in any order. All other fields are written in
one way only.

## Main definitions

* `Principal.toJsonListing` — the saved form with the roles in some order.
* `Principal.IsAlike` — nobody can tell two principals apart.
* `Principal.IsRead` — what holds of every principal that was loaded.
* `Principal.reload` — what a saved principal is loaded as.

## Main statements

* `Principal.yields_decoder` — loaded principals are of that kind.
* `Principal.reads_decoder` — a saved principal is loaded as its `reload`.
* `Request.sameAnswers_reload` — requests on its behalf get the same answers.
* `Principal.isAlike_of_decoder_toJsonListing` — nobody can tell it from the one that was saved.
-/
namespace AccessPolicy

/-! ## The saved form -/

theorem NameSet.ofList_toList (s : NameSet) : ofList s.toList = s := by
  have hentries : s.toList.map (fun name => (name, ())) = s.entries := by
    rw [toList, Dict.keys, List.map_map]
    exact List.map_id s.entries
  rw [ofList, hentries, Dict.ofList_entries]

namespace Principal

/-- The value that writes a principal if its roles are listed in the given order. -/
def toJsonListing (p : Principal) (roles : List String) : Json :=
  .ofDict ((p.toJson.record?.getD .empty).insert "roles" (.ofTexts roles))

/-- The fields of a saved principal, in the order in which they are written. -/
def savedFields (p : Principal) (roles : List String) : List (String × Json) :=
  (if p.attributes.isEmpty then [] else [("attributes", .ofDict p.attributes)]) ++
    [ ("department", textOrNull p.department),
      ("email", .string p.email),
      ("id", .string p.id),
      ("isSuperuser", .bool p.isSuperuser),
      ("location", textOrNull p.location),
      ("permissions", .array (p.permissions.map Permission.toJson)),
      ("roles", .ofTexts roles) ]

theorem toJson_eq_object (p : Principal) : p.toJson = .object (p.savedFields p.roles.toList) := by
  by_cases h : p.attributes.isEmpty = true <;>
    simp only [toJson, savedFields, h, Json.ofFields, Json.ofDict, Dict.ofList, Dict.insert,
      Dict.insertEntry, Dict.empty, List.cons_append, List.nil_append, List.foldl,
      String.reduceLT, String.reduceEq, if_true, if_false, Bool.false_eq_true]

/-- Only the roles are written in another order. -/
theorem toJsonListing_eq_object (p : Principal) (roles : List String) :
    p.toJsonListing roles = .object (p.savedFields roles) := by
  rw [toJsonListing, toJson_eq_object, Json.record?, Option.getD_some]
  by_cases h : p.attributes.isEmpty = true <;>
    simp only [savedFields, h, Json.ofDict, Dict.ofList, Dict.insert, Dict.insertEntry, Dict.empty,
      List.cons_append, List.nil_append, List.foldl, String.reduceLT, String.reduceEq, if_true,
      if_false, Bool.false_eq_true]

/-- In ascending order of the roles this is the form that `toJson` gives. -/
theorem toJsonListing_toList (p : Principal) : p.toJsonListing p.roles.toList = p.toJson := by
  rw [toJsonListing_eq_object, toJson_eq_object]

end Principal

/-! ## Nobody can tell -/

/-- Two principals that nobody can tell apart. -/
structure Principal.IsAlike (p q : Principal) : Prop where
  /-- They are saved in the same way, in whatever order the roles are listed. -/
  toJsonListing : q.toJson = p.toJson ∧ ∀ roles, q.toJsonListing roles = p.toJsonListing roles
  /-- They have the same roles. -/
  roles : q.roles = p.roles
  /-- They have the same context. -/
  context : q.context = p.context
  /-- Either of them is a superuser or none. -/
  isSuperuser : q.isSuperuser = p.isSuperuser
  /-- They pass the same checks for a role. -/
  holdsRole : ∀ role, q.holdsRole role = p.holdsRole role
  /-- They pass the same checks for one of some roles. -/
  holdsAnyRole : ∀ roles, q.holdsAnyRole roles = p.holdsAnyRole roles
  /-- They pass the same checks for all of some roles. -/
  holdsAllRoles : ∀ roles, q.holdsAllRoles roles = p.holdsAllRoles roles
  /-- Requests on their behalf get the same answers. -/
  sameAnswers : ∀ action entityType,
    Request.SameAnswers ⟨p, action, entityType⟩ ⟨q, action, entityType⟩

/-! ## Loading -/

namespace Principal

/-- What holds of every principal that was loaded. -/
structure IsRead (p : Principal) : Prop where
  /-- The conditions of its permissions were read. -/
  permissions : ∀ permission ∈ p.permissions, permission.IsRead
  /-- Its attributes are as reading leaves them. -/
  attributes : ∀ name v, p.attributes.get? name = some v → v.IsCanonical

/-- **Loaded principals** are of that kind. -/
theorem yields_decoder : decoder.Yields IsRead := by
  have hdraft : (layout.read {}).Yields fun draft =>
      (∀ permission ∈ draft.permissions.getD [], permission.IsRead) ∧
        ∀ name v, (draft.attributes.getD .empty).get? name = some v → v.IsCanonical := by
    refine Layout.yields_read ⟨nofun, nofun⟩ ?_
    have hpermissions : (Decoder.orDefault [] (Decoder.list Permission.decoder)).Yields
        fun permissions => ∀ permission ∈ permissions, permission.IsRead :=
      Permission.yields_decoder.list.orDefault nofun
    have hattributes : (Decoder.orDefault .empty (Decoder.dict Decoder.json)).Yields
        fun attributes => ∀ name v, attributes.get? name = some v → v.IsCanonical :=
      Decoder.yields_json.dict.orDefault nofun
    -- The fields before the last two touch neither the permissions nor the attributes.
    simp only [layout, List.forall_mem_cons, List.not_mem_nil, false_imp_iff, implies_true,
      and_true]
    exact ⟨Field.keeps_other fun _ _ h => h, Field.keeps_other fun _ _ h => h,
      Field.keeps_other fun _ _ h => h, Field.keeps_other fun _ _ h => h,
      Field.keeps_other fun _ _ h => h, Field.keeps_other fun _ _ h => h,
      Field.keeps_of hpermissions fun _ _ h hread => ⟨hread, h.2⟩,
      Field.keeps_of hattributes fun _ _ h hread => ⟨h.1, hread⟩⟩
  intro place d p hp
  obtain ⟨draft, hread, hfinish⟩ := Decoder.bind_eq_ok.1 hp
  obtain ⟨hpermissions, hattributes⟩ := hdraft hread
  rw [Draft.finish] at hfinish
  split at hfinish
  · exact absurd hfinish (Place.fail_ne_ok _ _ _)
  · cases hfinish
    exact ⟨hpermissions, hattributes⟩

/-- The principal that a saved principal is loaded as. -/
def reload (p : Principal) : Principal :=
  { p with
    permissions := p.permissions.map Permission.reload
    attributes := p.attributes.map fun _ v => v.canonical }

/-- The draft in which a saved principal is read. -/
def savedDraft (p : Principal) (roles : List String) (attributes : Option (Dict Json)) : Draft :=
  ⟨some p.id, some p.email, some p.department, some p.location, some roles, some p.isSuperuser,
    some p.reload.permissions, attributes⟩

theorem reads_textOrNull (s : Option String) :
    (Decoder.optional Decoder.text).Reads (textOrNull s) s :=
  Decoder.Reads.optional_self (fun t _ => Decoder.reads_text t) (fun _ => nofun)

theorem reads_attributes (p : Principal) :
    (Decoder.orDefault .empty (Decoder.dict Decoder.json)).Reads
      (.ofDict p.attributes) p.reload.attributes := by
  have hread : (Decoder.dict Decoder.json).Reads
      (.ofDict (p.attributes.map fun _ v => v)) p.reload.attributes :=
    Decoder.Reads.dict fun _ v _ => Decoder.reads_json v
  have hself : (p.attributes.map fun _ v => v) = p.attributes :=
    Dict.ext_get? fun name => by simp
  rw [hself] at hread
  exact hread.orDefault nofun .empty

/-- The fields of a saved principal are read one by one. -/
theorem readsFields_savedFields (p : Principal) (roles : List String) :
    ∃ attributes : Option (Dict Json), attributes.getD .empty = p.reload.attributes ∧
      layout.ReadsFields {} (p.savedFields roles) (p.savedDraft roles attributes) := by
  have hid : identifier.Reads (.string p.id) p.id := fun _ _ => rfl
  have hemail : (Decoder.orDefault "" Decoder.text).Reads (.string p.email) p.email :=
    (Decoder.reads_text p.email).orDefault nofun ""
  have hroles : (Decoder.orDefault [] (Decoder.list Decoder.text)).Reads (.ofTexts roles) roles :=
    (Decoder.Reads.texts roles).orDefault nofun []
  have hsuper : (Decoder.orDefault false Decoder.bool).Reads (.bool p.isSuperuser) p.isSuperuser :=
    (Decoder.reads_bool p.isSuperuser).orDefault nofun false
  have hpermissions : (Decoder.orDefault [] (Decoder.list Permission.decoder)).Reads
      (.array (p.permissions.map Permission.toJson)) p.reload.permissions :=
    (Decoder.Reads.list fun permission _ => permission.reads_decoder).orDefault nofun []
  have hrest : ∀ attributes, layout.ReadsFields { attributes }
      [ ("department", textOrNull p.department),
        ("email", .string p.email),
        ("id", .string p.id),
        ("isSuperuser", .bool p.isSuperuser),
        ("location", textOrNull p.location),
        ("permissions", .array (p.permissions.map Permission.toJson)),
        ("roles", .ofTexts roles) ] (p.savedDraft roles attributes) :=
    fun _ => .slot rfl rfl (reads_textOrNull _) <| .slot rfl rfl hemail <| .slot rfl rfl hid <|
      .slot rfl rfl hsuper <| .slot rfl rfl (reads_textOrNull _) <| .slot rfl rfl hpermissions <|
      .slot rfl rfl hroles <| .nil _
  rw [savedFields]
  by_cases hempty : p.attributes.isEmpty = true
  · rw [if_pos hempty]
    refine ⟨none, Dict.ext ?_, hrest none⟩
    have hentries : p.attributes.entries = [] := by simpa [Dict.isEmpty] using hempty
    simp [reload, Dict.map, hentries, Dict.empty]
  · rw [if_neg hempty]
    exact ⟨some p.reload.attributes, rfl, .slot rfl rfl p.reads_attributes (hrest _)⟩

/-- **A saved principal is loaded as its `reload`**, whatever the order of the roles. -/
theorem reads_decoder {p : Principal} {roles : List String}
    (hroles : NameSet.ofList roles = p.roles) :
    decoder.Reads (p.toJsonListing roles) p.reload := by
  obtain ⟨attributes, hattributes, hfields⟩ := readsFields_savedFields p roles
  intro place hplace
  have hfinish : (p.savedDraft roles attributes).finish place = .ok p.reload := by
    simp [savedDraft, Draft.finish, reload, hroles, hattributes]
  rw [toJsonListing_eq_object] at hplace ⊢
  exact Decoder.bind_eq_ok.2 ⟨_, Layout.reads_read hfields hplace, hfinish⟩

/-- **The form that `toJson` gives** is one of those. -/
theorem reads_decoder_toJson (p : Principal) : decoder.Reads p.toJson p.reload := by
  rw [← toJsonListing_toList]
  exact reads_decoder p.roles.ofList_toList

end Principal

/-! ## The same answers -/

namespace Request

variable {r s : Request}

/-- What counts for the second request is what counts for the first, written and read again. -/
theorem permissions_reload (hprincipal : s.principal = r.principal.reload)
    (haction : s.action = r.action) (htype : s.entityType = r.entityType) :
    s.permissions = r.permissions.map Permission.reload := by
  have hgrants : (fun p : Permission => p.grants r.action r.entityType) ∘ Permission.reload =
      fun p => p.grants r.action r.entityType := rfl
  rw [permissions, permissions, hprincipal, haction, htype, Principal.reload]
  by_cases hsuper : r.principal.isSuperuser = true
  · -- The permission of a superuser has no conditions.
    simp only [hsuper, if_true]
    rfl
  · simp only [hsuper, Bool.false_eq_true, if_false, List.filter_map, hgrants]

/-- **Requests on behalf of a principal that was saved and loaded again** get the same answers. -/
theorem sameAnswers_reload (hread : r.principal.IsRead)
    (hprincipal : s.principal = r.principal.reload) (haction : s.action = r.action)
    (htype : s.entityType = r.entityType) (hcontext : s.context = r.context) :
    r.SameAnswers s := by
  have hpermissions := permissions_reload hprincipal haction htype
  have hcount : ∀ p ∈ r.permissions, p.IsRead := by
    intro p hp
    rw [permissions] at hp
    split at hp
    · rw [List.mem_singleton.1 hp]
      exact Permission.isRead_of_conditions_eq_none rfl
    · exact hread.permissions p (List.mem_filter.1 hp).1
  have hwritten : s.permissions.map Permission.toJson = r.permissions.map Permission.toJson := by
    rw [hpermissions, List.map_map]
    exact List.map_congr_left fun p hp => (hcount p hp).toJson_reload
  have hpolicies : s.permissions.map Permission.fields = r.permissions.map Permission.fields := by
    rw [hpermissions, List.map_map]
    rfl
  have hpredicate : s.predicate = r.predicate := by
    rw [predicate_eq_anyOf, predicate_eq_anyOf, hpermissions, hcontext, List.map_map]
    refine congrArg Predicate.anyOf (List.map_congr_left fun p hp => ?_)
    exact Predicate.ofConditions_reload (hcount p hp) r.context
  exact sameAnswers_of_fields haction htype hwritten hpolicies hpredicate

end Request

namespace Principal

variable {p : Principal}

theorem IsRead.attributes_reload (h : p.IsRead) : p.reload.attributes = p.attributes := by
  apply Dict.ext_get?
  intro name
  rw [reload, Dict.get?_map]
  cases hname : p.attributes.get? name with
  | none => rfl
  | some v => exact congrArg some (h.attributes name v hname)

theorem IsRead.toJson_reload (h : p.IsRead) : p.reload.toJson = p.toJson := by
  have hpermissions :
      p.reload.permissions.map Permission.toJson = p.permissions.map Permission.toJson := by
    rw [reload, List.map_map]
    exact List.map_congr_left fun permission hp => (h.permissions permission hp).toJson_reload
  rw [toJson, toJson, h.attributes_reload, hpermissions]
  rfl

theorem IsRead.context_reload (h : p.IsRead) : p.reload.context = p.context := by
  rw [context, context, userData, userData, h.attributes_reload]
  rfl

/-- **Nobody can tell a principal that was loaded** from the one that it is loaded as after it was
saved. -/
theorem IsRead.isAlike_reload (h : p.IsRead) : p.IsAlike p.reload := by
  constructor
  case toJsonListing =>
    refine ⟨h.toJson_reload, fun roles => ?_⟩
    rw [Principal.toJsonListing, Principal.toJsonListing, h.toJson_reload]
  case roles => rfl
  case context => exact h.context_reload
  case isSuperuser => rfl
  case holdsRole => exact fun _ => rfl
  case holdsAnyRole => exact fun _ => rfl
  case holdsAllRoles => exact fun _ => rfl
  case sameAnswers =>
    intro action entityType
    exact Request.sameAnswers_reload h rfl rfl rfl h.context_reload

/-- **A loaded principal survives saving and loading.** Save a principal that was loaded from any
document, with its roles listed in any order. If the saved form is not nested too deep, it loads,
and nobody can tell the principal that it gives from the one that was saved. -/
theorem isAlike_of_decoder_toJsonListing {d : Document} {p : Principal} {roles : List String}
    (hp : decoder .root d = .ok p) (hroles : NameSet.ofList roles = p.roles)
    (hdepth : (p.toJsonListing roles).depth ≤ nestingLimit) :
    ∃ q, decoder .root (.ofJson (p.toJsonListing roles)) = .ok q ∧ p.IsAlike q :=
  ⟨p.reload, reads_decoder hroles hdepth, (yields_decoder hp).isAlike_reload⟩

end Principal

/-! ### A snapshot with a condition that is not understood -/

/-- A snapshot with a number as the identifier, a role listed twice, an address that is absent, and
a text in the place of a condition. -/
def auditorSnapshot : Document :=
  .object
    [ ("id", .number (.int 7)),
      ("roles", .array [.string "auditor", .string "staff", .string "auditor"] .closed),
      ("email", .null),
      ("permissions", .array
        [ .object
            [ ("actions", .array [.string "read"] .closed),
              ("entityType", .string "documents"),
              ("conditions", .object
                [ ("owner", .string "$\x7buser.id\x7d"),
                  ("site", .object
                    [("in", .array [.string "HQ", .string "$\x7buser.site\x7d"] .closed)]
                    .closed) ] .closed) ] .closed ]
        .closed) ] .closed

/-- The condition on the owner that is read from the text: an unknown operator and the text. -/
def ownerCondition : Condition := ⟨.unknown "<string>", .literal (.string "$\x7buser.id\x7d")⟩

/-- The principal of the snapshot. -/
def auditor : Principal where
  id := "7"
  roles := .ofList ["auditor", "staff", "auditor"]
  permissions :=
    [ { entityType := "documents"
        actions := ["read"]
        conditions := some <| .ofList
          [ ("owner", ownerCondition),
            ("site", ⟨.known .oneOf,
              .list [.literal (.string "HQ"), .reference ["user", "site"]]⟩) ] } ]

/-- Saved with its roles in the other order, the auditor is loaded again as one that nobody can
tell apart, although the text has become a reference. -/
theorem isAlike_auditor :
    Principal.decoder .root auditorSnapshot = .ok auditor ∧
      ownerCondition.reload = ⟨.unknown "<string>", .reference ["user", "id"]⟩ ∧
      ∃ q, Principal.decoder .root (.ofJson (auditor.toJsonListing ["staff", "auditor"])) = .ok q ∧
        auditor.IsAlike q := by
  have hdecoder : Principal.decoder .root auditorSnapshot = .ok auditor := rfl
  have hroles : NameSet.ofList ["staff", "auditor"] = auditor.roles := by decide
  have hdepth : (auditor.toJsonListing ["staff", "auditor"]).depth ≤ nestingLimit := by decide
  exact ⟨hdecoder, rfl, Principal.isAlike_of_decoder_toJsonListing hdecoder hroles hdepth⟩

end AccessPolicy
