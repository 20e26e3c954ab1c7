import AccessPolicy.Proofs.LackedAttribute
import AccessPolicy.Proofs.Template

/-!
# References to the data of the principal

A text of policy data that has the form of a reference, with the keys `user`, `k` and further ones,
leads into the data of the principal. What stands under `k` is the principal's own data, if it has
any of that name, and a further attribute otherwise; no attribute can take the place of own data.
The further keys lead on through nested objects. A reference that does not begin with `user` leads
nowhere.

Three steps follow each other: the keys are found in the text, however odd they look as long as
they have no point in them; own data is put over further attributes; and keys lead from object to
object.

## Main definitions

* `Json.Leads` — keys lead from a value to a value inside it.
* `Principal.Owns` — the data of a principal that is not a further attribute.
* `Principal.referred?` — the value of the text of a reference.

## Main statements

* `Json.at?_eq_some_iff` — a value is found at a path if the path leads there.
* `Principal.get?_ownData_eq_some_iff` — which data is the principal's own.
* `Principal.referred?_cases` — where references lead.
-/
namespace AccessPolicy

/-! ## Keys that lead into a value -/

/-- Keys lead from a value to a value inside it, through an object for each of them. -/
inductive Json.Leads : List String → Json → Json → Prop
  /-- No key is left. -/
  | here (v : Json) : Leads [] v v
  /-- The first key leads to the value under it. -/
  | inside {key : String} {path : List String} {fields : List (String × Json)} {v w : Json}
      (hkey : Dict.valueAt? key fields = some v) (h : Leads path v w) :
      Leads (key :: path) (.object fields) w

/-- **A value is found at a path** if the path leads there. -/
theorem Json.at?_eq_some_iff {path : List String} {v w : Json} :
    v.at? path = some w ↔ Leads path v w := by
  induction path generalizing v with
  | nil =>
    rw [at?, Option.some.injEq]
    constructor
    · rintro rfl
      exact .here v
    · rintro ⟨⟩
      rfl
  | cons key path ih =>
    rw [at?, Option.bind_eq_some_iff]
    constructor
    · rintro ⟨u, hfield, hu⟩
      cases v with
      | object fields => exact .inside hfield (ih.1 hu)
      | _ => cases hfield
    · rintro (_ | ⟨hkey, h⟩)
      exact ⟨_, hkey, ih.2 h⟩

/-- Keys lead nowhere from a value that is not an object. -/
theorem Json.at?_eq_none {v : Json} (h : v.kindName ≠ "object") {path : List String}
    (hpath : path ≠ []) : v.at? path = none := by
  cases path with
  | nil => exact absurd rfl hpath
  | cons key path =>
    cases v with
    | object fields => exact absurd rfl h
    | _ => rfl

namespace Principal

variable {p : Principal} {key : String} {v : Json}

/-! ## Own data -/

/-- The data that a principal has of its own. There are always an identifier, the roles, sorted
and without repetition, and whether no rule applies. -/
inductive Owns (p : Principal) : String → Json → Prop
  | id : p.Owns "id" (.string p.id)
  | email (h : p.email ≠ "") : p.Owns "email" (.string p.email)
  | department {s : String} (h : p.department = some s) : p.Owns "department" (.string s)
  | location {s : String} (h : p.location = some s) : p.Owns "location" (.string s)
  | roles (names : List String) (hsorted : names.Pairwise (· < ·))
      (hroles : ∀ name, name ∈ names ↔ p.hasRole name = true) : p.Owns "roles" (.ofTexts names)
  | isSuperuser : p.Owns "isSuperuser" (.bool p.isSuperuser)

/-- The names of the data that a principal has a place for. -/
def ownNames : List String := ["id", "email", "department", "location", "roles", "isSuperuser"]

theorem owns_roles (p : Principal) : p.Owns "roles" (.ofTexts p.roles.toList) :=
  .roles _ p.roles.pairwise_toList fun _ => NameSet.mem_toList

/-- Roles that are sorted and not repeated are those that a principal keeps. -/
theorem toList_roles {names : List String} (hsorted : names.Pairwise (· < ·))
    (hroles : ∀ name, name ∈ names ↔ p.hasRole name = true) : p.roles.toList = names := by
  have hset : p.roles = .ofList names := by
    refine NameSet.ext_has fun name => ?_
    rw [NameSet.has_ofList, hroles name]
    rfl
  rw [hset, NameSet.toList_ofList hsorted]

/-- **What a principal owns** is among its own data. -/
theorem get?_ownData_of_owns (h : p.Owns key v) : p.ownData.get? key = some v := by
  cases h with
  | id => simp [ownData, userData, get?_insertText]
  | email h => simp [ownData, userData, get?_insertText, h]
  | department h => simp [ownData, userData, get?_insertText, h]
  | location h => simp [ownData, userData, get?_insertText, h]
  | roles names hsorted hroles =>
    simp [ownData, userData, toList_roles hsorted hroles]
  | isSuperuser => simp [ownData, userData]

/-- Own data has one of the names that there is a place for. -/
theorem get?_ownData_of_notMem (h : key ∉ ownNames) : p.ownData.get? key = none := by
  simp only [ownNames, List.mem_cons, List.not_mem_nil, or_false, not_or] at h
  simp [ownData, userData, get?_insertText, h]

/-- Own data is no object, so that nothing stands inside it. -/
theorem Owns.kindName_ne (h : p.Owns key v) : v.kindName ≠ "object" := by
  cases h <;> simp [Json.kindName, Json.ofTexts]

/-! ## References -/

/-- The value of the text of a reference with some keys. -/
def referred? (p : Principal) (keys : List String) : Option Json :=
  (Operand.ofJson (.string (Operand.template keys))).resolve p.context

variable {path keys : List String}

theorem referred?_eq_at? (hne : keys ≠ []) (h : ∀ k ∈ keys, '.' ∉ k.toList) :
    p.referred? keys = p.context.at? keys := by
  rw [referred?, Operand.ofJson_template hne h, Operand.resolve]

/-- **A reference to the data of the principal** leads to what stands under its first key, and on
from there. -/
theorem referred?_user (h : ∀ k ∈ key :: path, '.' ∉ k.toList) :
    p.referred? ("user" :: key :: path) = (p.userData.get? key).bind (Json.at? path) := by
  have huser : '.' ∉ "user".toList := by decide
  rw [referred?_eq_at? (List.cons_ne_nil _ _) (List.forall_mem_cons.2 ⟨huser, h⟩)]
  simp [context, Json.at?, Json.field?, Json.ofDict, Dict.valueAt?, Dict.get?]

/-- **References lead to the data of the principal.** Take the text of a reference with keys that
have no point in them, whatever else they are, and read it in the context of a principal. If the
keys are `user`, `key` and further ones, then

* there is data of the principal's own for `id`, `roles` and `isSuperuser` in any case;
* if the principal owns data named `key`, the reference leads to it, whatever attributes there
  are, and nowhere if there are further keys;
* if there is no place for data named `key`, or the principal lacks it, the reference leads to
  what the further keys lead to from the attribute of that name, and nowhere else.

If the first key is another one, the reference leads nowhere. -/
theorem referred?_cases (p : Principal) :
    (∀ (key : String) (path : List String), (∀ k ∈ key :: path, '.' ∉ k.toList) →
      (key ∈ ["id", "roles", "isSuperuser"] → ∃ v, p.Owns key v) ∧
      (∀ v, p.Owns key v →
        p.referred? ("user" :: key :: path) = if path = [] then some v else none) ∧
      (key ∉ ownNames ∨ p.Lacks key → ∀ w, p.referred? ("user" :: key :: path) = some w ↔
        ∃ v, p.attributes.get? key = some v ∧ Json.Leads path v w)) ∧
    ∀ (first : String) (rest : List String), (∀ k ∈ first :: rest, '.' ∉ k.toList) →
      first ≠ "user" → p.referred? (first :: rest) = none := by
  refine ⟨fun key path h => ⟨?_, ?_, ?_⟩, ?_⟩
  · intro hkey
    simp only [List.mem_cons, List.not_mem_nil, or_false] at hkey
    rcases hkey with rfl | rfl | rfl
    · exact ⟨_, .id⟩
    · exact ⟨_, p.owns_roles⟩
    · exact ⟨_, .isSuperuser⟩
  · intro v hv
    have hdata : p.userData.get? key = some v := by
      rw [isOverlay_userData, get?_ownData_of_owns hv, Option.some_or]
    rw [referred?_user h, hdata, Option.bind_some]
    by_cases hpath : path = []
    · subst hpath
      rfl
    · rw [if_neg hpath, Json.at?_eq_none hv.kindName_ne hpath]
  · intro hother w
    have hown : p.ownData.get? key = none := by
      rcases hother with hname | hlacks
      · exact get?_ownData_of_notMem hname
      · exact get?_ownData_of_lacks hlacks
    rw [referred?_user h, isOverlay_userData, hown, Option.none_or, Option.bind_eq_some_iff]
    simp only [Json.at?_eq_some_iff]
  · intro first rest h hfirst
    rw [referred?_eq_at? (List.cons_ne_nil _ _) h]
    simp [context, Json.at?, Json.field?, Dict.valueAt?, hfirst]

end Principal

/-! ### Odd attributes -/

/-- A planner of a department, with an attribute that has the name of the department, and one whose
name ends with a brace and that holds an object under the empty key. -/
def planner : Principal where
  id := "u-1"
  department := some "Ops"
  roles := .ofList ["planner", "driver", "planner"]
  attributes := .ofList
    [ ("department", .string "Sales"),
      ("team\x7d", .object [("", .object [("$lead", .string "u-9")])]) ]

/-- The references of the planner lead to its own department and roles, and through the attribute
with the odd name; the address that it lacks, the inside of the department and what stands beside
the data of the principal are nowhere. -/
theorem referred?_planner :
    planner.referred? ["user", "department"] = some (.string "Ops") ∧
      planner.referred? ["user", "roles"] = some (.ofTexts ["driver", "planner"]) ∧
      planner.referred? ["user", "team\x7d", "", "$lead"] = some (.string "u-9") ∧
      planner.referred? ["user", "department", "name"] = none ∧
      planner.referred? ["user", "email"] ≠ some (.string "") ∧
      planner.referred? ["department"] = none := by
  obtain ⟨huser, hother⟩ := Principal.referred?_cases planner
  obtain ⟨-, hdepartment, -⟩ := huser "department" [] (by decide)
  obtain ⟨-, hroles, -⟩ := huser "roles" [] (by decide)
  obtain ⟨-, -, hteam⟩ := huser "team\x7d" ["", "$lead"] (by decide)
  obtain ⟨-, hinside, -⟩ := huser "department" ["name"] (by decide)
  obtain ⟨-, -, hemail⟩ := huser "email" [] (by decide)
  have hdriver : planner.Owns "roles" (.ofTexts ["driver", "planner"]) := planner.owns_roles
  refine ⟨hdepartment _ (.department rfl), hroles _ hdriver, ?_, ?_, ?_, ?_⟩
  · exact (hteam (.inl (by decide)) _).2 ⟨_, rfl, .inside rfl (.inside rfl (.here _))⟩
  · exact hinside _ (.department rfl)
  · intro hempty
    obtain ⟨v, hv, -⟩ := (hemail (.inr (.email rfl)) _).1 hempty
    cases hv
  · exact hother "department" [] (by decide) (by decide)

end AccessPolicy
