import AccessPolicy.Proofs.Json.Written
import AccessPolicy.Proofs.Json.Yield
import AccessPolicy.Proofs.MalformedCondition
import AccessPolicy.Proofs.Template

/-!
# Permissions that are read, written and read again

Reading policy data is lenient, so many values are read as one permission, and what is written is
not always what was read. A condition of the wrong form is written as an object whose only key is
the made-up name of its operator. Read again, its operand is no longer the literal that it was:
texts inside it may have become references. But the operator stays unknown, and with an unknown
operator nobody looks at the operand. Every other condition that was read comes back as it was.

What is special about conditions that were read is that their literals hold no text in the form of
a reference, unless the operator is unknown; so nothing of this holds of conditions in general.

## Main definitions

* `Condition.IsRead`, `Permission.IsRead` — what reading gives.
* `Permission.reload` — what a written permission is read as.

## Main statements

* `Permission.yields_decoder` — permissions in documents are of that kind.
* `Permission.reads_decoder` — a written permission is read as its `reload`.
* `Permission.IsRead.toJson_reload` — which is written in the same way.
* `Predicate.ofConditions_reload` — and has the same predicate in every context.
-/
namespace AccessPolicy

/-! ## Conditions -/

namespace Condition

/-- What holds of every condition that is read from a value. -/
structure IsRead (c : Condition) : Prop where
  /-- Reading the name of the operator gives the operator back. -/
  isOwnName : c.operator.IsOwnName
  /-- The operand is written as a value that reading does not change. -/
  isCanonical : c.operand.toJson.IsCanonical
  /-- The operand is read from the value that it is written as, if anybody looks at it. -/
  ofJson_toJson : c.operator.isKnown = true → Operand.ofJson c.operand.toJson = c.operand

/-- The value of an object with one field is canonical if the object is. -/
theorem isCanonical_of_singleton {name : String} {v : Json}
    (h : Json.IsCanonical (.object [(name, v)])) : v.IsCanonical := by
  have hentry : [(name, v.canonical)] = [(name, v)] := Json.object.inj h
  simpa [Json.IsCanonical] using hentry

/-- **Conditions that are read** are of that kind. -/
theorem isRead_ofJson {v : Json} (hv : v.IsCanonical) : (ofJson v).IsRead := by
  have hown := isOwnName_ofJson v
  obtain ⟨name, expected, rfl, -⟩ | ⟨-, name, -, hread⟩ := ofJson_cases v
  · refine ⟨hown, ?_, fun _ => ?_⟩
    · rw [ofJson, Operand.toJson_ofJson]
      exact isCanonical_of_singleton hv
    · rw [ofJson, Operand.toJson_ofJson]
  · -- The whole value has become a literal.
    refine ⟨hown, ?_, fun hknown => ?_⟩
    · rw [hread]
      exact hv
    · rw [hread] at hknown
      cases hknown

variable {c : Condition}

theorem IsRead.toJson_canonical (h : c.IsRead) : c.toJson.canonical = c.toJson := by
  have hoperand : c.operand.toJson.canonical = c.operand.toJson := h.isCanonical
  rw [toJson, Json.canonical, Json.canonicalFields, hoperand]
  rfl

/-- Only the operand may change when a condition that was read is written and read again. -/
theorem IsRead.reload_eq (h : c.IsRead) : c.reload = ⟨c.operator, .ofJson c.operand.toJson⟩ := by
  have hoperator : Operator.ofName c.operator.name = c.operator := h.isOwnName
  rw [reload, h.toJson_canonical, toJson, ofJson, hoperator]

theorem IsRead.toJson_reload (h : c.IsRead) : c.reload.toJson = c.toJson := by
  rw [h.reload_eq, toJson, toJson, Operand.toJson_ofJson]

/-- A condition that was read and whose operator is known comes back as it was. -/
theorem IsRead.reload_eq_self (h : c.IsRead) (hknown : c.operator.isKnown = true) :
    c.reload = c := by
  rw [h.reload_eq, h.ofJson_toJson hknown]

/-- **The filter of a condition** is the same after it was written and read again. -/
theorem IsRead.filter?_reload (h : c.IsRead) (context : Json) (field : String) :
    Predicate.filter? context field c.reload = Predicate.filter? context field c := by
  by_cases hknown : c.operator.isKnown = true
  · rw [h.reload_eq_self hknown]
  · have hunknown : c.operator.isKnown = false := by simpa using hknown
    have hreload : c.reload.operator.isKnown = false := by
      rw [operator_reload h.isOwnName]
      exact hunknown
    rw [Predicate.filter?_eq_none hunknown, Predicate.filter?_eq_none hreload]

/-- A decoder of conditions gives conditions that are read. -/
theorem yields_decoder : decoder.Yields IsRead :=
  Decoder.yields_json.map fun _ hv => isRead_ofJson hv

/-- A written condition is read as its `reload`. -/
theorem reads_decoder (c : Condition) : decoder.Reads c.toJson c.reload :=
  (Decoder.reads_json c.toJson).map ofJson

end Condition

/-! ## Field policies -/

namespace FieldPolicy

/-- The draft in which a written policy is read: lists that are absent are not written. -/
def writtenDraft (policy : FieldPolicy) : Draft where
  allowed := policy.allowed.map some
  denied := policy.denied.map some

/-- The lists of a written policy are read one by one. -/
theorem readsFields_writtenDraft (policy : FieldPolicy) :
    ∃ fields, policy.toJson = .object fields ∧
      layout.ReadsFields {} fields policy.writtenDraft := by
  have hlist : ∀ texts : List String,
      (Decoder.optional (Decoder.list Decoder.text)).Reads (.ofTexts texts) (some texts) :=
    fun texts => Decoder.Reads.optional_self (o := some texts)
      (fun texts _ => Decoder.Reads.texts texts) (fun _ => nofun)
  have hdenied : ∀ draft : Draft, draft.denied = none → ∀ texts,
      layout.ReadsFields draft [("denied", .ofTexts texts)]
        { draft with denied := some (some texts) } :=
    fun draft hunset texts => .slot rfl hunset (hlist texts) (.nil _)
  have hallowed : ∀ texts rest final,
      layout.ReadsFields { allowed := some (some texts) } rest final →
        layout.ReadsFields {} (("allowed", .ofTexts texts) :: rest) final :=
    fun texts _ _ hrest => .slot rfl rfl (hlist texts) hrest
  obtain ⟨allowed, denied⟩ := policy
  cases allowed with
  | none =>
    cases denied with
    | none => exact ⟨_, rfl, .nil _⟩
    | some denied => exact ⟨_, rfl, hdenied {} rfl denied⟩
  | some allowed =>
    cases denied with
    | none => exact ⟨_, rfl, hallowed allowed _ _ (.nil _)⟩
    | some denied =>
      refine ⟨_, ?_, hallowed allowed _ _ (hdenied _ rfl denied)⟩
      simp only [toJson, optionalEntry, Json.ofFields, Json.ofDict, Dict.ofList, Dict.insert,
        Dict.insertEntry, Dict.empty, List.cons_append, List.nil_append, List.foldl,
        String.reduceLT, String.reduceEq, if_false]

/-- **A written field policy is read as that policy.** -/
theorem reads_decoder (policy : FieldPolicy) : decoder.Reads policy.toJson policy := by
  obtain ⟨fields, hfields, hread⟩ := readsFields_writtenDraft policy
  have hpolicy : policy = ⟨policy.writtenDraft.allowed.join, policy.writtenDraft.denied.join⟩ := by
    obtain ⟨allowed, denied⟩ := policy
    cases allowed <;> cases denied <;> rfl
  rw [hfields, hpolicy]
  exact (Layout.reads_read hread).map fun s => (⟨s.allowed.join, s.denied.join⟩ : FieldPolicy)

end FieldPolicy

/-! ## Permissions -/

namespace Permission

/-- Every condition of the permission is one that is read from a value. -/
def IsRead (p : Permission) : Prop :=
  ∀ cs field c, p.conditions = some cs → cs.get? field = some c → c.IsRead

theorem isRead_of_conditions_eq_none {p : Permission} (h : p.conditions = none) : p.IsRead := by
  intro cs field c hcs
  rw [h] at hcs
  cases hcs

/-- The permission that a written permission is read as. -/
def reload (p : Permission) : Permission :=
  { p with conditions := p.conditions.map fun cs => cs.map fun _ c => c.reload }

/-- **Permissions in documents** have conditions that are read. -/
theorem yields_decoder : decoder.Yields IsRead := by
  have hdraft : (layout.read {}).Yields fun draft => draft.finish.IsRead := by
    refine Layout.yields_read (isRead_of_conditions_eq_none rfl) ?_
    -- Only the last field touches the conditions.
    have hother : ∀ draft next : Draft, next.conditions = draft.conditions →
        draft.finish.IsRead → next.finish.IsRead := by
      intro draft next hsame h cs field c hcs
      have hconditions : next.finish.conditions = draft.finish.conditions :=
        congrArg Option.join hsame
      exact h cs field c (hconditions ▸ hcs)
    simp only [layout, List.forall_mem_cons, List.not_mem_nil, false_imp_iff, implies_true,
      and_true]
    refine ⟨Field.keeps_other fun s _ => hother s _ rfl,
      Field.keeps_other fun s _ => hother s _ rfl,
      Field.keeps_other fun s _ => hother s _ rfl,
      Field.keeps_of Condition.yields_decoder.dict.optional ?_⟩
    intro draft conditions _ hread cs field c hcs hc
    exact hread cs hcs field c hc
  exact hdraft.map fun _ h => h

/-- The fields of a written permission, in the order in which they are written. -/
theorem toJson_eq_object (p : Permission) :
    p.toJson = .object
      [ ("actions", .ofTexts p.actions),
        ("conditions", (p.conditions.map conditionsJson).getD .null),
        ("entityType", .string p.entityType),
        ("fields", (p.fields.map FieldPolicy.toJson).getD .null) ] := by
  simp only [toJson, Json.ofFields, Json.ofDict, Dict.ofList, Dict.insert, Dict.insertEntry,
    Dict.empty, List.foldl, String.reduceLT, String.reduceEq, if_true, if_false]

/-- **A written permission** is read as its `reload`. -/
theorem reads_decoder (p : Permission) : decoder.Reads p.toJson p.reload := by
  have hactions : (Decoder.orDefault [] (Decoder.list Decoder.text)).Reads
      (.ofTexts p.actions) p.actions := (Decoder.Reads.texts p.actions).orDefault nofun []
  have hconditions : (Decoder.optional (Decoder.dict Condition.decoder)).Reads
      ((p.conditions.map conditionsJson).getD .null) p.reload.conditions :=
    Decoder.Reads.optional
      (fun cs _ => Decoder.Reads.dict fun _ c _ => Condition.reads_decoder c) (fun _ => nofun)
  have hentityType : (Decoder.orDefault "" Decoder.text).Reads
      (.string p.entityType) p.entityType := (Decoder.reads_text p.entityType).orDefault nofun ""
  have hfields : (Decoder.optional FieldPolicy.decoder).Reads
      ((p.fields.map FieldPolicy.toJson).getD .null) p.fields :=
    Decoder.Reads.optional_self (fun policy _ => policy.reads_decoder) (fun _ => nofun)
  have hread : layout.ReadsFields {}
      [ ("actions", .ofTexts p.actions),
        ("conditions", (p.conditions.map conditionsJson).getD .null),
        ("entityType", .string p.entityType),
        ("fields", (p.fields.map FieldPolicy.toJson).getD .null) ]
      ⟨some p.entityType, some p.actions, some p.fields, some p.reload.conditions⟩ :=
    .slot rfl rfl hactions <| .slot rfl rfl hconditions <| .slot rfl rfl hentityType <|
      .slot rfl rfl hfields <| .nil _
  rw [toJson_eq_object]
  exact (Layout.reads_read hread).map Draft.finish

variable {p : Permission}

theorem IsRead.toJson_reload (h : p.IsRead) : p.reload.toJson = p.toJson := by
  have hconditions : p.reload.conditions.map conditionsJson = p.conditions.map conditionsJson := by
    rw [reload, Option.map_map]
    refine Option.map_congr fun cs hcs => ?_
    rw [Function.comp_apply, conditionsJson, conditionsJson]
    refine congrArg Json.ofDict (Dict.ext_get? fun field => ?_)
    rw [Dict.get?_map, Dict.get?_map, Dict.get?_map, Option.map_map]
    exact Option.map_congr fun c hc => (h cs field c hcs hc).toJson_reload
  rw [toJson, toJson, hconditions]
  rfl

end Permission

/-- **The predicate of a permission** is the same after it was written and read again. -/
theorem Predicate.ofConditions_reload {p : Permission} (h : p.IsRead) (context : Json) :
    ofConditions p.reload.conditions context = ofConditions p.conditions context := by
  rw [Permission.reload]
  cases hcs : p.conditions with
  | none => rfl
  | some cs =>
    have hempty : (cs.map fun _ c => c.reload).isEmpty = cs.isEmpty := by
      simp [Dict.isEmpty, Dict.map]
    have hfilters : (cs.map fun _ c => c.reload).mapM? (filter? context) =
        cs.mapM? (filter? context) :=
      Dict.mapM?_map fun field c hc => (h cs field c hcs hc).filter?_reload context field
    rw [Option.map_some, ofConditions, ofConditions, hempty, hfilters]

end AccessPolicy
