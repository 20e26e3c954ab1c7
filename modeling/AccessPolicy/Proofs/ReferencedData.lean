import AccessPolicy.Proofs.Dict
import AccessPolicy.Proofs.Predicate.Disjunction
import AccessPolicy.Proofs.Resolution
import AccessPolicy.Proofs.SameAnswers

/-!
# Data of the principal that no condition refers to

The data of a principal has an effect on its requests through the context in which conditions are
resolved, and a condition looks at the context at the paths of its references only. So principals
with the same permissions, of which either all or none are superusers, get the same answers if
their contexts agree at the paths that the conditions of the permissions that count refer to.
Whatever else they are, roles, address, identifier and further attributes that no such condition
mentions, has no influence on any decision.

The argument follows a condition upwards. An operand has the same value in both contexts, so a
condition has the same filter, a set of conditions the same predicate, and a request the same
disjunction of predicates. That the predicates are the same, and not only select the same records,
gives all answers about records at once.

## Main definitions

* `Conditions.paths`, `Request.paths` — the paths that conditions refer to.

## Main statements

* `Predicate.ofConditions_congr` — the predicate of conditions in two contexts.
* `Request.sameAnswers_of_agreeAt` — the answers to two principals.
* `Request.sameAnswers_at_paths` — data that no condition refers to has no influence.
-/
namespace AccessPolicy

variable {c d : Json}

/-! ## Conditions -/

/-- The paths that conditions refer to. -/
def Conditions.paths (conditions : Option Conditions) : List (List String) :=
  (conditions.getD .empty).entries.flatMap fun e => e.2.operand.paths

/-- The conditions refer to a path if one of them does. -/
theorem Conditions.mem_paths {conditions : Option Conditions} {path : List String} :
    path ∈ paths conditions ↔ ∃ cs field condition, conditions = some cs ∧
      cs.get? field = some condition ∧ path ∈ condition.operand.paths := by
  rw [paths, List.mem_flatMap]
  constructor
  · rintro ⟨⟨field, condition⟩, hentry, hpath⟩
    cases conditions with
    | none => cases hentry
    | some cs => exact ⟨cs, field, condition, rfl, Dict.get?_eq_some_iff.2 hentry, hpath⟩
  · rintro ⟨cs, field, condition, rfl, hcondition, hpath⟩
    exact ⟨(field, condition), Dict.get?_eq_some_iff.1 hcondition, hpath⟩

/-- A condition has the same filter in contexts that agree where it refers to them. -/
theorem Predicate.filter?_congr {condition : Condition}
    (h : Json.AgreeAt condition.operand.paths c d) (field : String) :
    filter? c field condition = filter? d field condition := by
  rw [filter?, filter?, Operand.resolve_congr _ h]

/-- **Conditions have the same predicate** in contexts that agree where they refer to them. -/
theorem Predicate.ofConditions_congr {conditions : Option Conditions}
    (h : Json.AgreeAt (Conditions.paths conditions) c d) :
    ofConditions conditions c = ofConditions conditions d := by
  cases conditions with
  | none => rfl
  | some cs =>
    have hfilters : cs.mapM? (filter? c) = cs.mapM? (filter? d) := by
      apply Dict.mapM?_congr
      intro field condition hcondition
      have hagree : Json.AgreeAt condition.operand.paths c d := by
        intro path hpath
        exact h path (Conditions.mem_paths.2 ⟨cs, field, condition, rfl, hcondition, hpath⟩)
      exact filter?_congr hagree field
    rw [ofConditions, ofConditions, hfilters]

/-- Conditions accept the same records in such contexts. -/
theorem Conditions.accept_congr_context {conditions : Option Conditions}
    (h : Json.AgreeAt (paths conditions) c d) (record : Record) :
    accept conditions c record = accept conditions d record := by
  rw [← Predicate.selects_ofConditions, Predicate.ofConditions_congr h,
    Predicate.selects_ofConditions]

/-! ## Requests -/

namespace Request

/-- The paths that the conditions of the permissions that count refer to. -/
def paths (r : Request) : List (List String) :=
  r.permissions.flatMap fun p => Conditions.paths p.conditions

/-- **Principals whose contexts agree** where the permissions that count refer to them get the
same answers. -/
theorem sameAnswers_of_agreeAt {r s : Request} (haction : s.action = r.action)
    (htype : s.entityType = r.entityType) (hpermissions : s.permissions = r.permissions)
    (h : Json.AgreeAt r.paths r.context s.context) : r.SameAnswers s := by
  have hpredicate : s.predicate = r.predicate := by
    rw [predicate_eq_anyOf, predicate_eq_anyOf, hpermissions]
    refine congrArg Predicate.anyOf (List.map_congr_left fun p hp => ?_)
    have hagree : Json.AgreeAt (Conditions.paths p.conditions) r.context s.context :=
      fun path hpath => h path (List.mem_flatMap.2 ⟨p, hp, hpath⟩)
    exact (Predicate.ofConditions_congr hagree).symm
  exact sameAnswers_of_fields haction htype (congrArg _ hpermissions) (congrArg _ hpermissions)
    hpredicate

/-- **Data that no condition refers to has no influence.** Put another principal with the same
permissions in the place of the one that asks, a superuser for a superuser only. If the contexts
of the two agree at all paths that conditions of the permissions that count refer to, at whatever
depth of a list, all answers are the same. One level down, conditions accept the same records and
have the same predicate in any two values that agree at the paths they refer to. -/
theorem sameAnswers_at_paths :
    (∀ (r : Request) (other : Principal), other.permissions = r.principal.permissions →
      other.isSuperuser = r.principal.isSuperuser →
      Json.AgreeAt r.paths r.principal.context other.context →
        r.SameAnswers { r with principal := other }) ∧
    ∀ (conditions : Option Conditions) (c d : Json),
      Json.AgreeAt (Conditions.paths conditions) c d →
        (∀ record, Conditions.accept conditions c record = Conditions.accept conditions d record) ∧
          Predicate.ofConditions conditions c = Predicate.ofConditions conditions d := by
  constructor
  · intro r other hlist hsuper hagree
    have hpermissions : ({ r with principal := other } : Request).permissions = r.permissions := by
      rw [permissions, permissions, hlist, hsuper]
    exact sameAnswers_of_agreeAt rfl rfl hpermissions hagree
  · intro conditions c d hagree
    exact ⟨Conditions.accept_congr_context hagree, Predicate.ofConditions_congr hagree⟩

end Request

/-! ### Two clerks of one depot -/

/-- A permission for the files of the main office and of the own location. -/
def depotFiles : Permission where
  entityType := "files"
  actions := ["read"]
  conditions := some <| .ofList
    [("site", ⟨.known .oneOf,
      .list [.literal (.string "HQ"), .list [.reference ["user", "location"]]]⟩)]

/-- A permission for the vehicles of the own team. -/
def teamVehicles : Permission where
  entityType := "vehicles"
  actions := ["read"]
  conditions := some <| .ofList [("team", ⟨.known .eq, .reference ["user", "team"]⟩)]

/-- A request for files on behalf of a clerk of the depot. -/
def clerkRequest (id email : String) (roles : List String) (team : Json) : Request where
  principal :=
    { id
      email
      location := some "Depot 4"
      roles := .ofList roles
      permissions := [depotFiles, teamVehicles]
      attributes := .ofList [("team", team)] }
  action := "read"
  entityType := "files"

/-- Two clerks that have only the location in common get the same answers about files, since the
condition that looks at the team does not count; and in two contexts with the same location the
condition on the site has the same predicate. -/
theorem sameAnswers_clerkRequest :
    (clerkRequest "u-1" "" [] .null).paths = [["user", "location"]] ∧
      (clerkRequest "u-1" "" [] .null).SameAnswers
        (clerkRequest "u-2" "bo@example.com" ["clerk"] (.string "blue")) ∧
      Predicate.ofConditions depotFiles.conditions
          (clerkRequest "u-1" "" [] .null).context =
        Predicate.ofConditions depotFiles.conditions
          (clerkRequest "u-2" "bo@example.com" ["clerk"] (.string "blue")).context := by
  have hpaths : (clerkRequest "u-1" "" [] .null).paths = [["user", "location"]] := by decide
  have hagree : Json.AgreeAt [["user", "location"]]
      (clerkRequest "u-1" "" [] .null).principal.context
      (clerkRequest "u-2" "bo@example.com" ["clerk"] (.string "blue")).principal.context := by
    intro path hpath
    rw [List.mem_singleton.1 hpath]
    rfl
  obtain ⟨hrequests, hconditions⟩ := Request.sameAnswers_at_paths
  exact ⟨hpaths, hrequests (clerkRequest "u-1" "" [] .null) _ rfl rfl (hpaths ▸ hagree),
    (hconditions depotFiles.conditions _ _ hagree).2⟩

end AccessPolicy
