import AccessPolicy.Proofs.Json.Equality
import AccessPolicy.Proofs.MalformedCondition
import AccessPolicy.Proofs.Resolution
import AccessPolicy.Proofs.Template
import AccessPolicy.Request

/-!
# Conditions that are written and read again

A condition that was put together here may be written into a snapshot and read from it. It keeps
its operator, its references and the shape of its lists. Its literals are kept too, with one
exception: a text that has the form of a reference is written as it stands and read as a
reference. A literal is meant to stand for itself, whatever it looks like; such a one does not,
once it has been written and read, and its condition asks for something else from then on. It
keeps its meaning only if it accepts nothing in the first place.

That nothing else survives is shown by telling the two conditions apart. If the literal is the
whole operand, an empty context does it: the literal is still there, and the reference leads
nowhere. If it stands inside a list, a context is needed in which the other references of the
list lead somewhere; `Json.nested` is one in which all given paths do, and never to a text. There
the resolved list holds a text of that form before, and none after.

## Main definitions

* `Operand.HasTextPaths` — every path in an operand was given as a text.
* `Json.nested` — a context in which all paths over some keys lead somewhere.

## Main statements

* `Operand.resolve_ofJson_toJson` — operands without such literals keep their value.
* `Comparison.exists_separates` — a comparison tells a value with such a text from one without.
* `Condition.accepts_ofJson_toJson_iff` — which conditions keep their meaning.
-/
namespace AccessPolicy

/-! ## Operands that keep their value -/

namespace Operand

mutual

/-- Every path in the operand was given as a text, so no key of it has a point inside. -/
def HasTextPaths : Operand → Prop
  | literal _ => True
  | reference path => ∃ s, path = Text.split '.' s
  | list items => AllHaveTextPaths items

/-- Every path in the operands was given as a text. -/
def AllHaveTextPaths : List Operand → Prop
  | [] => True
  | o :: rest => HasTextPaths o ∧ AllHaveTextPaths rest

end

mutual

/-- **An operand whose literals hold no text in the form of a reference** has the same value
after it was written and read, in every context. -/
theorem resolve_ofJson_toJson (context : Json) : ∀ o : Operand, o.HasTextPaths →
    o.holdsTemplate = false → (ofJson o.toJson).resolve context = o.resolve context
  | literal v, _, h => resolve_ofJson context v h
  | reference _, ⟨s, hs⟩, _ => by
    subst hs
    exact congrArg (resolve context) (ofJson_reference s)
  | list items, hpaths, h => by
    rw [toJson, ofJson, resolve, resolve, resolveItems_ofItems_toItems context items hpaths h]

theorem resolveItems_ofItems_toItems (context : Json) : ∀ items : List Operand,
    AllHaveTextPaths items → itemsHoldTemplate items = false →
      resolveItems context (ofItems (toItems items)) = resolveItems context items
  | [], _, _ => rfl
  | o :: rest, ⟨ho, hrest⟩, h => by
    obtain ⟨hhead, htail⟩ := Bool.or_eq_false_iff.1 h
    rw [toItems, ofItems, resolveItems, resolveItems, resolve_ofJson_toJson context o ho hhead,
      resolveItems_ofItems_toItems context rest hrest htail]

end

end Operand

/-! ## Contexts in which paths lead somewhere -/

namespace Json

/-- Objects inside each other, `n` deep, all of them with the same keys. -/
def nested (keys : List String) : Nat → Json
  | 0 => .null
  | n + 1 => .ofDict ((NameSet.ofList keys).map fun _ _ => nested keys n)

theorem holdsTemplate_nested (keys : List String) (n : Nat) :
    (nested keys n).holdsTemplate = false := by
  cases n <;> rfl

theorem field?_nested {keys : List String} {k : String} (hk : k ∈ keys) (n : Nat) :
    (nested keys (n + 1)).field? k = some (nested keys n) := by
  have hhas : (NameSet.ofList keys).contains k = true := by
    rw [NameSet.ofList, Dict.contains_ofList]
    simpa using hk
  obtain ⟨u, hu⟩ := Option.isSome_iff_exists.1 hhas
  have hget : ((NameSet.ofList keys).map fun _ _ => nested keys n).get? k =
      some (nested keys n) := by
    rw [Dict.get?_map, hu, Option.map_some]
  exact hget

/-- A path leads as deep as it is long. -/
theorem at?_nested {keys : List String} (n : Nat) : ∀ path : List String, (∀ k ∈ path, k ∈ keys) →
    (nested keys (path.length + n)).at? path = some (nested keys n)
  | [], _ => by rw [List.length_nil, Nat.zero_add, at?]
  | k :: path, h => by
    have hdepth : (k :: path).length + n = path.length + n + 1 := by
      rw [List.length_cons]
      omega
    rw [hdepth, at?, field?_nested (h k List.mem_cons_self), Option.bind_some]
    exact at?_nested n path fun k' hk' => h k' (List.mem_cons_of_mem _ hk')

/-- **For any paths there is a context** in which all of them lead to values that hold no text in
the form of a reference. -/
theorem exists_context (paths : List (List String)) :
    ∃ context : Json, ∀ path ∈ paths, ∃ v, context.at? path = some v ∧ v.holdsTemplate = false := by
  refine ⟨nested paths.flatten paths.flatten.length, ?_⟩
  intro path hpath
  have hlength : path.length ≤ paths.flatten.length :=
    (List.sublist_flatten_of_mem hpath).length_le
  have hkeys : ∀ k ∈ path, k ∈ paths.flatten :=
    fun k hk => List.mem_flatten.2 ⟨path, hpath, hk⟩
  refine ⟨nested paths.flatten (paths.flatten.length - path.length), ?_, holdsTemplate_nested _ _⟩
  rw [← at?_nested _ path hkeys, Nat.add_sub_cancel' hlength]

end Json

namespace Operand

mutual

/-- In such a context an operand has a value, and this holds a text in the form of a reference
exactly if a literal of the operand does. -/
theorem exists_resolve {context : Json} : ∀ o : Operand,
    (∀ path ∈ o.paths, ∃ v, context.at? path = some v ∧ v.holdsTemplate = false) →
      ∃ v, o.resolve context = some v ∧ v.holdsTemplate = o.holdsTemplate
  | literal v, _ => ⟨v, rfl, rfl⟩
  | reference path, h => h path (List.mem_singleton_self path)
  | list items, h => by
    obtain ⟨vs, hvs, hholds⟩ := exists_resolveItems items h
    refine ⟨.array vs, ?_, hholds⟩
    rw [resolve, hvs, Option.map_some]

theorem exists_resolveItems {context : Json} : ∀ items : List Operand,
    (∀ path ∈ itemPaths items, ∃ v, context.at? path = some v ∧ v.holdsTemplate = false) →
      ∃ vs, resolveItems context items = some vs ∧
        Json.itemsHoldTemplate vs = itemsHoldTemplate items
  | [], _ => ⟨[], rfl, rfl⟩
  | o :: rest, h => by
    obtain ⟨v, hv, hholds⟩ := exists_resolve o fun path hp => h path (List.mem_append_left _ hp)
    obtain ⟨vs, hvs, hrest⟩ :=
      exists_resolveItems rest fun path hp => h path (List.mem_append_right _ hp)
    refine ⟨v :: vs, ?_, ?_⟩
    · simp [resolveItems, hv, hvs]
    · rw [Json.itemsHoldTemplate, itemsHoldTemplate, hholds, hrest]

end

end Operand

/-! ## Comparisons that tell values apart -/

namespace Json

mutual

/-- What is the same as a value with such a text holds one as well. -/
theorem holdsTemplate_of_same : ∀ v w : Json, v.holdsTemplate = true → v.same w = true →
    w.holdsTemplate = true
  | string a, w, hv, h => by
    cases w with
    | string b =>
      have hab : a = b := by simpa [same] using h
      rwa [← hab]
    | _ => cases h
  | array as, w, hv, h => by
    cases w with
    | array bs => exact itemsHoldTemplate_of_sameItems as bs hv h
    | _ => cases h
  | null, _, hv, _ => nomatch hv
  | bool _, _, hv, _ => nomatch hv
  | number _, _, hv, _ => nomatch hv
  | object _, _, hv, _ => nomatch hv

theorem itemsHoldTemplate_of_sameItems : ∀ vs ws : List Json, itemsHoldTemplate vs = true →
    sameItems vs ws = true → itemsHoldTemplate ws = true
  | [], _, hvs, _ => nomatch hvs
  | _ :: _, [], _, h => nomatch h
  | v :: vs, w :: ws, hvs, h => by
    obtain ⟨hhead, htail⟩ := (Bool.and_eq_true _ _).mp h
    rw [itemsHoldTemplate, Bool.or_eq_true] at hvs ⊢
    rcases hvs with hv | hvs
    · exact .inl (holdsTemplate_of_same v w hv hhead)
    · exact .inr (itemsHoldTemplate_of_sameItems vs ws hvs htail)

end

/-- A value with such a text is equal to none without. -/
theorem equal_eq_false {v w : Json} (hv : v.holdsTemplate = true) (hw : w.holdsTemplate = false) :
    v.equal w = false := by
  have hsame : v.equal w = v.same w := by
    cases v with
    | number n => cases hv
    | _ => rfl
  rw [hsame, ← Bool.not_eq_true]
  intro h
  rw [holdsTemplate_of_same v w hv h] at hw
  cases hw

theorem itemsHoldTemplate_iff {items : List Json} :
    itemsHoldTemplate items = true ↔ ∃ v ∈ items, v.holdsTemplate = true := by
  induction items with
  | nil => simp [itemsHoldTemplate]
  | cons v rest ih => simp [itemsHoldTemplate, ih]

/-- A value holds such a text if one of the values that it lists does. -/
theorem holdsTemplate_iff_members {v : Json} :
    v.holdsTemplate = true ↔ ∃ m ∈ v.members, m.holdsTemplate = true := by
  cases v with
  | array items => exact itemsHoldTemplate_iff
  | _ => simp [members]

end Json

/-- Every text contains itself, whatever the case of letters. -/
theorem Text.containsFold_self (s : String) : containsFold s s = true := by
  rw [containsFold]
  cases (lower s).toList with
  | nil => rfl
  | cons c rest => simp [occursIn]

namespace Comparison

/-- **A comparison with arrays tells apart** a value that holds a text in the form of a reference
and one that holds none; and it accepts something for the former. -/
theorem exists_separates {c : Comparison} {v w : Json}
    (hc : Filter.isSatisfiable c (.array []) = true) (hv : v.holdsTemplate = true)
    (hw : w.holdsTemplate = false) :
    (∃ value, c.holds value v = true) ∧ ∃ value, c.holds value w ≠ c.holds value v := by
  have hequals : equals (some v) v = true ∧ equals (some v) w = false :=
    ⟨Json.equal_refl v, Json.equal_eq_false hv hw⟩
  obtain ⟨m, hm, hmtemplate⟩ := Json.holdsTemplate_iff_members.1 hv
  have hlisted : listed (some m) v = true ∧ listed (some m) w = false := by
    refine ⟨List.any_eq_true.2 ⟨m, hm, Json.equal_refl m⟩, List.any_eq_false.2 ?_⟩
    intro m' hm'
    have hplain : m'.holdsTemplate = false := by
      rw [← Bool.not_eq_true]
      intro h
      have hholds := Json.holdsTemplate_iff_members.2 ⟨m', hm', h⟩
      rw [hw] at hholds
      cases hholds
    simp [Json.equal_eq_false hmtemplate hplain]
  cases c with
  | eq => exact ⟨⟨some v, hequals.1⟩, some v, by simp [holds, hequals]⟩
  | ne => exact ⟨⟨none, rfl⟩, some v, by simp [holds, hequals]⟩
  | oneOf => exact ⟨⟨some m, hlisted.1⟩, some m, by simp [holds, hlisted]⟩
  | noneOf => exact ⟨⟨none, rfl⟩, some m, by simp [holds, hlisted]⟩
  | gt => cases hc
  | lt => cases hc
  | gte => cases hc
  | lte => cases hc
  | contains => cases hc

/-- For a text in the form of a reference every comparison accepts something. -/
theorem exists_holds_of_templatePath? (c : Comparison) {s path : String}
    (hs : Operand.templatePath? s = some path) : ∃ value, c.holds value (.string s) = true := by
  obtain ⟨rest, hrest⟩ : ∃ rest, s.toList = '$' :: rest := by
    rw [Operand.templatePath?] at hs
    split at hs
    · exact ⟨_, by assumption⟩
    · cases hs
  -- Neither the empty text nor a percent sign is a time stamp, so the order is that of characters.
  have hless : Json.compareTexts "" s = .lt := by
    have hlt : "" < s := by
      rw [String.lt_iff, hrest]
      exact List.nil_lt_cons _ _
    have hparse : Instant.parse? "" = none := by decide
    simp [Json.compareTexts, hparse, compareOfLessAndEq, hlt]
  have hgreater : Json.compareTexts "%" s = .gt := by
    have hlt : s < "%" := by
      rw [String.lt_iff, hrest]
      exact List.cons_lt_cons_iff.2 (.inl (by decide))
    have hparse : Instant.parse? "%" = none := by decide
    have hne : "%" ≠ s := by
      intro h
      exact String.lt_irrefl s (h ▸ hlt)
    simp [Json.compareTexts, hparse, compareOfLessAndEq, String.lt_asymm hlt, hne]
  cases c with
  | eq => exact ⟨some (.string s), by simp [holds, equals, Json.equal_refl]⟩
  | ne => exact ⟨none, rfl⟩
  | oneOf => exact ⟨some (.string s), by simp [holds, listed, Json.members, Json.equal_refl]⟩
  | noneOf => exact ⟨none, rfl⟩
  | gt => exact ⟨some (.string "%"), by simp [holds, ordered, Json.compare?, hgreater]⟩
  | lt => exact ⟨some (.string ""), by simp [holds, ordered, Json.compare?, hless]⟩
  | gte => exact ⟨some (.string "%"), by simp [holds, ordered, Json.compare?, hgreater]⟩
  | lte => exact ⟨some (.string ""), by simp [holds, ordered, Json.compare?, hless]⟩
  | contains => exact ⟨some (.string s), Text.containsFold_self s⟩

end Comparison

/-! ## Conditions that are written and read -/

/-- A path that was given as a text leads nowhere without a context. -/
theorem Operand.resolve_ofPath_null (path : String) : (ofPath path).resolve .null = none := by
  rw [ofPath, resolve, Text.split]
  cases hparts : Text.splitChars '.' path.toList with
  | nil => exact absurd hparts (Text.splitChars_ne_nil _ _)
  | cons part parts => rfl

/-- An operand that is written as an array has arrays as its values. -/
theorem Operand.exists_array_of_resolve {context v : Json} {o : Operand} {items : List Json}
    (ho : o.toJson = .array items) (hv : o.resolve context = some v) : ∃ vs, v = .array vs := by
  cases o with
  | literal w =>
    cases hv
    exact ⟨items, ho⟩
  | reference path => cases ho
  | list os =>
    obtain ⟨vs, -, rfl⟩ := Option.map_eq_some_iff.1 hv
    exact ⟨vs, rfl⟩

/-- An operand with such a literal is that literal, or is written as an array. -/
theorem Operand.cases_of_holdsTemplate {o : Operand} (h : o.holdsTemplate = true) :
    (∃ s path, o = .literal (.string s) ∧ templatePath? s = some path) ∨
      ∃ items, o.toJson = .array items := by
  cases o with
  | literal v =>
    cases v with
    | string s =>
      obtain ⟨path, hpath⟩ := Option.isSome_iff_exists.1 h
      exact .inl ⟨s, path, rfl, hpath⟩
    | array items => exact .inr ⟨items, rfl⟩
    | _ => cases h
  | reference path => cases h
  | list items => exact .inr ⟨_, rfl⟩

namespace Condition

variable {c : Comparison} {o : Operand}

theorem accepts_of_resolve {context v : Json} (hv : o.resolve context = some v)
    (value : Option Json) : accepts ⟨.known c, o⟩ context value = c.holds value v := by
  rw [accepts_eq_any, hv]
  rfl

/-- A comparison that no array passes denies with every operand that is written as an array. -/
theorem accepts_eq_false_of_array {items : List Json}
    (hc : Filter.isSatisfiable c (.array []) = false) (ho : o.toJson = .array items)
    (context : Json) (value : Option Json) :
    accepts ⟨.known c, o⟩ context value = false := by
  cases hv : o.resolve context with
  | none => rw [accepts_eq_any, hv]; rfl
  | some v =>
    obtain ⟨vs, rfl⟩ := Operand.exists_array_of_resolve ho hv
    rw [accepts_of_resolve hv]
    apply Filter.holds_eq_false
    rw [← hc]
    cases c <;> rfl

/-- A literal text in the form of a reference is accepted where there is no context, and the
reference that it is read as leads nowhere there. -/
theorem exists_misread_of_text {s path : String} (hs : Operand.templatePath? s = some path) :
    ∃ value, accepts ⟨.known c, .literal (.string s)⟩ .null value = true ∧
      accepts ⟨.known c, .ofJson (.string s)⟩ .null value = false := by
  obtain ⟨value, hvalue⟩ := c.exists_holds_of_templatePath? hs
  refine ⟨value, ?_, ?_⟩
  · rw [accepts_of_resolve (v := .string s) rfl, hvalue]
  · rw [Operand.ofJson, hs, accepts_eq_any, Operand.resolve_ofPath_null]
    rfl

/-- A comparison with arrays accepts something with an operand that holds such a text, and tells
it from the operand that is read instead. -/
theorem exists_misread_of_array (hc : Filter.isSatisfiable c (.array []) = true)
    (h : o.holdsTemplate = true) :
    ∃ context, (∃ value, accepts ⟨.known c, o⟩ context value = true) ∧
      ∃ value, accepts ⟨.known c, .ofJson o.toJson⟩ context value ≠
        accepts ⟨.known c, o⟩ context value := by
  obtain ⟨context, hcontext⟩ := Json.exists_context (o.paths ++ (Operand.ofJson o.toJson).paths)
  obtain ⟨v, hv, hvholds⟩ := Operand.exists_resolve o
    fun path hp => hcontext path (List.mem_append_left _ hp)
  obtain ⟨w, hw, hwholds⟩ := Operand.exists_resolve (.ofJson o.toJson)
    fun path hp => hcontext path (List.mem_append_right _ hp)
  rw [h] at hvholds
  rw [Operand.holdsTemplate_ofJson] at hwholds
  refine ⟨context, ?_⟩
  simp only [accepts_of_resolve hv, accepts_of_resolve hw]
  exact Comparison.exists_separates hc hvholds hwholds

/-- **A condition with such a literal** keeps its meaning only if it accepts nothing. -/
theorem accepts_ofJson_iff_of_holdsTemplate (h : o.holdsTemplate = true) :
    (∀ context value, accepts ⟨.known c, .ofJson o.toJson⟩ context value =
        accepts ⟨.known c, o⟩ context value) ↔
      ∀ context value, accepts ⟨.known c, o⟩ context value = false := by
  rcases Operand.cases_of_holdsTemplate h with ⟨s, path, rfl, hpath⟩ | ⟨items, hitems⟩
  · obtain ⟨value, hbefore, hafter⟩ := exists_misread_of_text (c := c) hpath
    refine iff_of_false (fun hkeeps => ?_) (fun hdenies => ?_)
    · have hsame : false = true := hafter.symm.trans ((hkeeps .null value).trans hbefore)
      cases hsame
    · rw [hdenies] at hbefore
      cases hbefore
  · by_cases hc : Filter.isSatisfiable c (.array []) = true
    · obtain ⟨context, ⟨accepted, haccepted⟩, value, hvalue⟩ := exists_misread_of_array hc h
      refine iff_of_false (fun hkeeps => hvalue (hkeeps context value)) (fun hdenies => ?_)
      rw [hdenies] at haccepted
      cases haccepted
    · -- Both operands are arrays, which nothing is compared with.
      have hdenies : Filter.isSatisfiable c (.array []) = false := by simpa using hc
      have hreread : (Operand.ofJson o.toJson).toJson =
          .array (Operand.toItems (Operand.ofItems items)) := by
        rw [hitems]
        rfl
      refine iff_of_true ?_ (accepts_eq_false_of_array hdenies hitems)
      intro context value
      rw [accepts_eq_false_of_array hdenies hreread, accepts_eq_false_of_array hdenies hitems]

/-- A condition whose operator was named is read back with that operator. -/
theorem ofJson_toJson_ofName (name : String) (o : Operand) :
    ofJson (toJson ⟨.ofName name, o⟩) = ⟨.ofName name, .ofJson o.toJson⟩ := by
  rw [toJson, ofJson, Operator.name_ofName]

/-- **Which conditions keep their meaning** when they are written and read again: those without a
literal that holds, as itself or as an item of an array, a text in the form of a reference, and
those that deny everything anyway. In particular a literal text is read as a literal exactly if
it does not have that form. -/
theorem accepts_ofJson_toJson_iff (name : String) {o : Operand} (ho : o.HasTextPaths) :
    ((∀ context value, (ofJson (toJson ⟨.ofName name, o⟩)).accepts context value =
        accepts ⟨.ofName name, o⟩ context value) ↔
      o.holdsTemplate = false ∨
        ∀ context value, accepts ⟨.ofName name, o⟩ context value = false) ∧
    ∀ s, (ofJson (toJson ⟨.ofName name, .literal (.string s)⟩)).operand = .literal (.string s) ↔
      Operand.templatePath? s = none := by
  constructor
  · rw [ofJson_toJson_ofName]
    cases hplain : o.holdsTemplate with
    | false =>
      refine iff_of_true ?_ (.inl rfl)
      intro context value
      rw [accepts_eq_any, accepts_eq_any, Operand.resolve_ofJson_toJson context o ho hplain]
    | true =>
      cases Operator.ofName name with
      | unknown name => exact iff_of_true (fun _ _ => rfl) (.inr fun _ _ => rfl)
      | known c =>
        rw [accepts_ofJson_iff_of_holdsTemplate hplain]
        simp
  · intro s
    rw [ofJson_toJson_ofName, Operand.toJson, Operand.ofJson]
    cases hs : Operand.templatePath? s with
    | none => simp
    | some path => simp [Operand.ofPath]

end Condition

/-! ### Titles of notes -/

/-- The places in which a principal works: the main office and its own location. -/
def workplaces : Operand := .list [.literal (.string "HQ"), .ofPath "user.location"]

/-- A list with a literal and a reference keeps its meaning. -/
theorem accepts_workplaces :
    workplaces.HasTextPaths ∧
      ∀ context value,
        (Condition.ofJson (Condition.toJson ⟨.ofName "in", workplaces⟩)).accepts context value =
          Condition.accepts ⟨.ofName "in", workplaces⟩ context value := by
  have hpaths : workplaces.HasTextPaths := ⟨trivial, ⟨"user.location", rfl⟩, trivial⟩
  have hplain : workplaces.holdsTemplate = false := by decide
  exact ⟨hpaths, (Condition.accepts_ofJson_toJson_iff "in" hpaths).1.2 (.inl hplain)⟩

/-- The title of a note about references. -/
def quotedReference : String := "$\x7buser.department\x7d"

/-- A request for notes with that title, which is given as a literal. -/
def noteRequest : Request where
  principal :=
    { id := "u-1"
      department := some "Ops"
      permissions :=
        [ { entityType := "notes"
            actions := ["read"]
            conditions := some <| .ofList
              [("title", ⟨.ofName "eq", .literal (.string quotedReference)⟩)] } ] }
  action := "read"
  entityType := "notes"

/-- A note. -/
def noteRecord (title : String) : Record := .ofList [("title", .string title)]

/-- **A literal in the form of a reference is lost.** When the principal has been written and
read, the note is not seen any more, and a note about the department of the principal is. -/
theorem misread_noteRequest :
    noteRequest.seesRecord (noteRecord quotedReference) = true ∧
      noteRequest.seesRecord (noteRecord "Ops") = false ∧
      ∃ principal, Principal.decoder .root (.ofJson noteRequest.principal.toJson) = .ok principal ∧
        { noteRequest with principal }.seesRecord (noteRecord quotedReference) = false ∧
        { noteRequest with principal }.seesRecord (noteRecord "Ops") = true := by
  refine ⟨by decide, by decide, _, rfl, ?_, ?_⟩
  · decide
  · decide

end AccessPolicy
