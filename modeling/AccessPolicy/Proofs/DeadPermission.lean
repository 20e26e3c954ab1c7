import AccessPolicy.Proofs.Dict
import AccessPolicy.Proofs.MorePermissions
import AccessPolicy.Proofs.Predicate.Disjunction
import AccessPolicy.Proofs.Resolution

/-!
# Dead permissions

Some conditions deny every record, whatever it holds: those on a reserved name, those with an
unknown operator, those that ask for something the principal does not have, and those whose
expected value no field value compares with. A permission with such a condition is dead for the
principal. It may stand in the list of permissions or not; no answer about records changes.

The reasons are found at different places while conditions are turned into a predicate. All of
them come down to a filter that does not exist, and one filter that does not exist makes the
predicate of the permission select nothing. A disjunction drops such a part without a trace, so
the predicate of the request is the same, and with it what the request sees.

## Main definitions

* `Condition.IsDead` — why a condition denies every record.
* `Permission.IsDead` — one of the conditions of a permission does.

## Main statements

* `Predicate.filter?_eq_none_iff` — the conditions without a filter are the dead ones.
* `Predicate.ofConditions_eq_nothing_iff` — dead permissions select nothing, and no others.
* `Request.predicate_without_dead` — the predicate of a request does without dead permissions.
* `Request.recordAnswers_without_dead` — and so do all answers about records.
-/
namespace AccessPolicy

/-! ## Conditions -/

/-- A condition on a field denies every record of a principal with the given context. -/
inductive Condition.IsDead (context : Json) (field : String) (c : Condition) : Prop
  /-- The name of the field is reserved. -/
  | reserved (h : field ∈ reservedNames)
  /-- The operator is not known. -/
  | unknown (name : String) (h : c.operator = .unknown name)
  /-- A reference, in whatever list it stands, leads nowhere. -/
  | unresolved (path : List String) (hpath : path ∈ c.operand.paths) (h : context.at? path = none)
  /-- The operator asks for an order, and the expected value is neither a number nor a text. -/
  | unordered (comparison : Comparison) (expected : Json)
      (hoperator : c.operator = .known comparison)
      (hcomparison : comparison ∈ [Comparison.gt, .lt, .gte, .lte])
      (hexpected : c.operand.resolve context = some expected)
      (h : expected.kindName ∉ ["number", "string"])
  /-- The operator asks for a part of a text, and the expected value is no text. -/
  | uncontained (expected : Json) (hoperator : c.operator = .known .contains)
      (hexpected : c.operand.resolve context = some expected) (h : expected.kindName ≠ "string")

/-- The values that no field value compares with. -/
theorem Filter.isSatisfiable_eq_false_iff {c : Comparison} {v : Json} :
    isSatisfiable c v = false ↔
      c ∈ [Comparison.gt, .lt, .gte, .lte] ∧ v.kindName ∉ ["number", "string"] ∨
        c = .contains ∧ v.kindName ≠ "string" := by
  cases c <;> cases v <;> simp [isSatisfiable, Json.kindName]

theorem Filter.ofOperator?_eq_none_iff {o : Operator} {v : Json} :
    ofOperator? o v = none ↔
      (∃ name, o = .unknown name) ∨ ∃ c, o = .known c ∧ isSatisfiable c v = false := by
  cases o <;> simp [ofOperator?]

/-- **The conditions without a filter** are the dead ones. -/
theorem Predicate.filter?_eq_none_iff {context : Json} {field : String} {c : Condition} :
    filter? context field c = none ↔ c.IsDead context field := by
  have hfilter : filter? context field c = none ↔
      field ∈ reservedNames ∨ c.operand.resolve context = none ∨
        ∃ v, c.operand.resolve context = some v ∧ Filter.ofOperator? c.operator v = none := by
    rw [filter?, isReserved]
    by_cases hreserved : field ∈ reservedNames
    · simp [hreserved]
    · cases c.operand.resolve context <;> simp [hreserved]
  rw [hfilter, Operand.resolve_eq_none_iff]
  constructor
  · rintro (hreserved | ⟨path, hpath, hnowhere⟩ | ⟨v, hv, hnone⟩)
    · exact .reserved hreserved
    · exact .unresolved path hpath hnowhere
    · rcases Filter.ofOperator?_eq_none_iff.1 hnone with ⟨name, hname⟩ | ⟨comparison, hc, hfalse⟩
      · exact .unknown name hname
      · rcases Filter.isSatisfiable_eq_false_iff.1 hfalse with ⟨horder, hkind⟩ | ⟨rfl, hkind⟩
        · exact .unordered comparison v hc horder hv hkind
        · exact .uncontained v hc hv hkind
  · intro hdead
    cases hdead with
    | reserved h => exact .inl h
    | unknown name h =>
      -- With an unknown operator it makes no difference whether the operand has a value.
      cases hv : c.operand.resolve context with
      | none => exact .inr (.inl (Operand.resolve_eq_none_iff _ |>.1 hv))
      | some v => exact .inr (.inr ⟨v, rfl, Filter.ofOperator?_eq_none_iff.2 (.inl ⟨name, h⟩)⟩)
    | unresolved path hpath h => exact .inr (.inl ⟨path, hpath, h⟩)
    | unordered comparison v hc horder hv hkind =>
      have hfalse := Filter.isSatisfiable_eq_false_iff.2 (.inl ⟨horder, hkind⟩)
      exact .inr (.inr ⟨v, hv, Filter.ofOperator?_eq_none_iff.2 (.inr ⟨comparison, hc, hfalse⟩)⟩)
    | uncontained v hc hv hkind =>
      have hfalse := Filter.isSatisfiable_eq_false_iff.2 (.inr ⟨rfl, hkind⟩)
      exact .inr (.inr ⟨v, hv, Filter.ofOperator?_eq_none_iff.2 (.inr ⟨_, hc, hfalse⟩)⟩)

/-! ## Permissions -/

/-- One of the conditions of a permission denies every record. -/
def Permission.IsDead (context : Json) (p : Permission) : Prop :=
  ∃ cs field c, p.conditions = some cs ∧ cs.get? field = some c ∧ c.IsDead context field

/-- **Dead permissions select nothing**, and no others do. -/
theorem Predicate.ofConditions_eq_nothing_iff {p : Permission} {context : Json} :
    ofConditions p.conditions context = .nothing ↔ p.IsDead context := by
  rw [Permission.IsDead]
  cases p.conditions with
  | none => simp [ofConditions]
  | some cs =>
    have hmapM : cs.mapM? (filter? context) = none ↔
        ∃ field c, cs.get? field = some c ∧ c.IsDead context field := by
      simp only [Dict.mapM?_eq_none_iff, filter?_eq_none_iff]
    rw [ofConditions]
    by_cases hempty : cs.isEmpty = true
    · have hentries : cs.entries = [] := by simpa [Dict.isEmpty] using hempty
      simp [hempty, Dict.get?, Dict.valueAt?, hentries]
    · rw [if_neg hempty]
      cases hm : cs.mapM? (filter? context) with
      | none => simpa using hmapM.1 hm
      | some filters => simpa [hm] using hmapM

/-- Whether a permission is dead can be told from its predicate. -/
instance (context : Json) (p : Permission) : Decidable (p.IsDead context) :=
  decidable_of_iff ((Predicate.ofConditions p.conditions context).isNothing = true) <| by
    rw [← Predicate.ofConditions_eq_nothing_iff]
    cases Predicate.ofConditions p.conditions context <;> simp [Predicate.isNothing]

/-! ## Requests -/

namespace Request

variable {r : Request} {before after : List Permission} {dead : Permission}

/-- Of the permissions around one in the list those count that counted before; the one in the
middle counts or does not. -/
theorem permissions_withPermissions_cases (r : Request) (before after : List Permission)
    (p : Permission) :
    (r.withPermissions (before ++ p :: after)).permissions =
        (r.withPermissions (before ++ after)).permissions ∨
      ∃ front back, (r.withPermissions (before ++ p :: after)).permissions = front ++ p :: back ∧
        (r.withPermissions (before ++ after)).permissions = front ++ back := by
  by_cases hsuper : r.principal.isSuperuser = true
  · left
    simp [permissions, withPermissions, hsuper]
  · by_cases hgrants : p.grants r.action r.entityType = true
    · right
      refine ⟨before.filter (·.grants r.action r.entityType),
        after.filter (·.grants r.action r.entityType), ?_, ?_⟩
      · simp [permissions, withPermissions, hsuper, hgrants]
      · simp [permissions, withPermissions, hsuper]
    · left
      simp [permissions, withPermissions, hsuper, hgrants]

/-- **The predicate of a request does without dead permissions.** -/
theorem predicate_without_dead (hdead : dead.IsDead r.context) :
    (r.withPermissions (before ++ after)).predicate =
      (r.withPermissions (before ++ dead :: after)).predicate := by
  have hnothing : Predicate.ofConditions dead.conditions r.context = .nothing :=
    Predicate.ofConditions_eq_nothing_iff.2 hdead
  have hcontext : ∀ ps, (r.withPermissions ps).context = r.context := fun _ => rfl
  rw [predicate_eq_anyOf, predicate_eq_anyOf, hcontext, hcontext]
  rcases permissions_withPermissions_cases r before after dead with hsame | ⟨_, _, hwith, hwithout⟩
  · rw [hsame]
  · rw [hwith, hwithout, List.map_append, List.map_append, List.map_cons, hnothing,
      Predicate.anyOf_append_nothing]

/-- **A dead permission changes no answer about records.** Take a permission that is dead for the
principal out of the list, wherever it stands and whatever the others are: the same records are
seen and kept, and the predicate is the same. -/
theorem recordAnswers_without_dead (r : Request) {before after : List Permission}
    {dead : Permission} (hlist : r.principal.permissions = before ++ dead :: after)
    (hdead : dead.IsDead r.principal.context) :
    (∀ record, (r.withPermissions (before ++ after)).seesRecord record = r.seesRecord record) ∧
      (∀ records,
        (r.withPermissions (before ++ after)).filterRecords records = r.filterRecords records) ∧
      (r.withPermissions (before ++ after)).predicate = r.predicate := by
  have hself : r.withPermissions (before ++ dead :: after) = r := by
    rw [← hlist]
    rfl
  have hpredicate : (r.withPermissions (before ++ after)).predicate = r.predicate := by
    rw [predicate_without_dead hdead, hself]
  have hsees : ∀ record,
      (r.withPermissions (before ++ after)).seesRecord record = r.seesRecord record := by
    intro record
    rw [← selects_predicate, hpredicate, selects_predicate]
  refine ⟨hsees, ?_, hpredicate⟩
  intro records
  rw [filterRecords_eq_filter, filterRecords_eq_filter, funext hsees]

end Request

/-! ### Documents of a location -/

/-- A permission for open documents of the main office or of the own location. -/
def localDocuments : Permission where
  entityType := "documents"
  actions := ["read"]
  conditions := some <| .ofList
    [ ("site", ⟨.known .oneOf,
        .list [.literal (.string "HQ"), .list [.reference ["user", "location"]]]⟩),
      ("status", ⟨.known .eq, .literal (.string "open")⟩) ]

/-- A permission for open documents. -/
def openDocuments : Permission where
  entityType := "documents"
  actions := ["read"]
  conditions := some <| .ofList [("status", ⟨.known .eq, .literal (.string "open")⟩)]

/-- A request of a principal that has no location. -/
def documentRequest : Request where
  principal := { id := "u-1", permissions := [localDocuments, openDocuments] }
  action := "read"
  entityType := "documents"

/-- The reference inside a list inside the list leads nowhere, so the first permission is dead,
although the main office stands beside it; the documents are those of the second permission. -/
theorem recordAnswers_documentRequest :
    documentRequest.principal.permissions = [] ++ localDocuments :: [openDocuments] ∧
      localDocuments.IsDead documentRequest.principal.context ∧
      (documentRequest.withPermissions [openDocuments]).predicate = documentRequest.predicate ∧
      ∀ records, (documentRequest.withPermissions [openDocuments]).filterRecords records =
        documentRequest.filterRecords records := by
  have hlist :
      documentRequest.principal.permissions = [] ++ localDocuments :: [openDocuments] := rfl
  have hdead : localDocuments.IsDead documentRequest.principal.context :=
    ⟨_, "site", _, rfl, rfl, .unresolved ["user", "location"] (by decide) rfl⟩
  obtain ⟨-, hfilter, hpredicate⟩ :=
    Request.recordAnswers_without_dead documentRequest hlist hdead
  exact ⟨hlist, hdead, hpredicate, hfilter⟩

end AccessPolicy
