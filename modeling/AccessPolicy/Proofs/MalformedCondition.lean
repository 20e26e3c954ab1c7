import AccessPolicy.Principal
import AccessPolicy.Proofs.Json.Canonical
import AccessPolicy.Proofs.Json.Edit
import AccessPolicy.Proofs.Predicate.Agreement
import Mathlib.Logic.Function.Iterate

/-!
# Malformed conditions deny and never fail to load

Any value may stand where a condition should. A condition is understood only if the value is an
object whose single key names a comparison. Every other value gives a condition with an unknown
operator, named after the kind of the value or after its keys; such a condition lets no record
through. Writing it down turns that made-up name into a key, and the name is chosen so that the
key names no comparison: what is not understood stays so, however often it is written and read.

## Main definitions

* `Operator.IsOwnName` — reading the name of an operator gives the operator back.
* `Condition.reload` — writes a condition and reads it again.
* `Document.replaceCondition` — puts another document in the place of a condition.

## Main statements

* `Operator.name_ofName` — an operator has the name that it was found by.
* `Condition.ofJson_cases`, `Condition.isKnown_ofJson_iff` — which values are understood.
* `Condition.operator_iterate_reload` — writing and reading keeps the operator.
* `Conditions.accept_eq_false`, `Predicate.ofConditions_eq_nothing` — one unknown operator denies.
* `Principal.decoder_replaceCondition` — a snapshot decodes with any value as a condition.
* `Principal.decoder_malformedCondition` — and if it is not understood, it denies for good.
-/
namespace AccessPolicy

/-! ## Names of operators -/

namespace Operator

/-- A name that no comparison has stands for none. -/
theorem ofName_eq_unknown {name : String} (h : name ∉ Comparison.all.map Comparison.name) :
    ofName name = .unknown name := by
  have hfind : Comparison.all.find? (·.name = name) = none := by
    rw [List.find?_eq_none]
    intro c hc hname
    exact h (List.mem_map.2 ⟨c, hc, by simpa using hname⟩)
  simp only [ofName, hfind]

theorem ofName_name (c : Comparison) : ofName c.name = .known c := by
  cases c <;> rfl

theorem isKnown_ofName_iff {name : String} :
    (ofName name).isKnown = true ↔ name ∈ Comparison.all.map Comparison.name := by
  by_cases hname : name ∈ Comparison.all.map Comparison.name
  · obtain ⟨c, -, rfl⟩ := List.mem_map.1 hname
    rw [ofName_name]
    exact iff_of_true rfl hname
  · rw [ofName_eq_unknown hname]
    exact iff_of_false Bool.false_ne_true hname

/-- **An operator has the name that it was found by**, also if this names no comparison. -/
theorem name_ofName (name : String) : (ofName name).name = name := by
  by_cases hname : name ∈ Comparison.all.map Comparison.name
  · obtain ⟨c, -, rfl⟩ := List.mem_map.1 hname
    rw [ofName_name]
    rfl
  · rw [ofName_eq_unknown hname]
    rfl

/-- Reading the name of an operator gives the operator back. This fails only for an unknown
operator under the name of a comparison. -/
def IsOwnName (o : Operator) : Prop := ofName o.name = o

theorem isOwnName_ofName (name : String) : (ofName name).IsOwnName := by
  rw [IsOwnName, name_ofName]

end Operator

namespace Condition

/-! ## Which values are understood -/

/-- Keys that are joined by a plus sign name no comparison, unless there is exactly one. -/
theorem intercalate_notMem {keys : List String} (h : keys.length ≠ 1) :
    "+".intercalate keys ∉ Comparison.all.map Comparison.name := by
  match keys with
  | [] => decide
  | [_] => exact absurd rfl h
  | a :: b :: rest =>
    have hplus : '+' ∈ ("+".intercalate (a :: b :: rest)).toList := by
      rw [String.intercalate_cons_cons]
      simp
    have hnames : ∀ name ∈ Comparison.all.map Comparison.name, '+' ∉ name.toList := by decide
    intro hmem
    exact hnames _ hmem hplus

/-- The name that a value of another kind than an object gets names no comparison. -/
theorem kindName_notMem (v : Json) :
    "<" ++ v.kindName ++ ">" ∉ Comparison.all.map Comparison.name := by
  have hangle : '<' ∈ ("<" ++ v.kindName ++ ">").toList := by simp
  have hnames : ∀ name ∈ Comparison.all.map Comparison.name, '<' ∉ name.toList := by decide
  intro hmem
  exact hnames _ hmem hangle

/-- **How a condition comes about**: from an object with one key, with the operator that the key
names and the operand that stands there; from any other value, which becomes a literal, with an
operator that is unknown under a name that names no comparison. -/
theorem ofJson_cases (v : Json) :
    (∃ name expected, v = .object [(name, expected)] ∧
      ofJson v = ⟨.ofName name, .ofJson expected⟩) ∨
    (∀ name expected, v ≠ .object [(name, expected)]) ∧
      ∃ name, name ∉ Comparison.all.map Comparison.name ∧
        ofJson v = ⟨.unknown name, .literal v⟩ := by
  cases v with
  | object fields =>
    match fields with
    | [] => exact .inr ⟨by simp, _, @intercalate_notMem [] (by decide), rfl⟩
    | [(name, expected)] => exact .inl ⟨name, expected, rfl, rfl⟩
    | e :: e' :: rest =>
      refine .inr ⟨by simp, _, intercalate_notMem ?_, rfl⟩
      simp
  | _ => exact .inr ⟨by simp, _, kindName_notMem _, rfl⟩

/-- **Which values are understood**: objects with one key that names a comparison. -/
theorem isKnown_ofJson_iff {v : Json} :
    (ofJson v).operator.isKnown = true ↔
      ∃ name ∈ Comparison.all.map Comparison.name, ∃ expected, v = .object [(name, expected)] := by
  obtain ⟨name, expected, rfl, hread⟩ | ⟨hv, name, -, hread⟩ := ofJson_cases v
  · rw [hread, Operator.isKnown_ofName_iff]
    simp
  · rw [hread]
    refine iff_of_false Bool.false_ne_true ?_
    intro h
    obtain ⟨name', -, expected, heq⟩ := h
    exact hv name' expected heq

/-- Every operator that is read from a value has its own name. -/
theorem isOwnName_ofJson (v : Json) : (ofJson v).operator.IsOwnName := by
  obtain ⟨name, _, -, hread⟩ | ⟨-, name, hnot, hread⟩ := ofJson_cases v
  · rw [hread]
    exact Operator.isOwnName_ofName name
  · rw [hread]
    exact Operator.ofName_eq_unknown hnot

/-! ## Writing and reading again -/

/-- Writes a condition and reads it again. -/
def reload (c : Condition) : Condition := ofJson c.toJson.canonical

theorem operator_reload {c : Condition} (h : c.operator.IsOwnName) :
    c.reload.operator = c.operator := h

/-- **Writing and reading keeps the operator**, any number of times. -/
theorem operator_iterate_reload {c : Condition} (h : c.operator.IsOwnName) (n : Nat) :
    (reload^[n] c).operator = c.operator := by
  -- Having its own name is a property of the operator, so it is kept as well.
  induction n with
  | zero => rfl
  | succ n ih =>
    have hown : (reload^[n] c).operator.IsOwnName := by
      rw [ih]
      exact h
    rw [Function.iterate_succ_apply', operator_reload hown]
    exact ih

end Condition

/-! ## Denial -/

/-- A condition with an unknown operator has no filter. -/
theorem Predicate.filter?_eq_none {c : Condition} (h : c.operator.isKnown = false)
    (context : Json) (field : String) : filter? context field c = none := by
  obtain ⟨operator, operand⟩ := c
  cases operator with
  | known comparison => cases h
  | unknown name => simp [filter?, Filter.ofOperator?]

/-- **One condition with an unknown operator** makes the predicate select nothing. -/
theorem Predicate.ofConditions_eq_nothing {cs : Conditions} {field : String} {c : Condition}
    (hc : cs.get? field = some c) (h : c.operator.isKnown = false) (context : Json) :
    ofConditions (some cs) context = .nothing := by
  have hentry : (field, c) ∈ cs.entries := Dict.get?_eq_some_iff.1 hc
  have hempty : ¬ cs.isEmpty = true := by
    intro hnil
    have hentries : cs.entries = [] := by simpa [Dict.isEmpty] using hnil
    simp [hentries] at hentry
  rw [ofConditions, if_neg hempty,
    Dict.mapM?_eq_none_iff.2 ⟨field, c, hc, filter?_eq_none h context field⟩]

/-- **One condition with an unknown operator** lets no record through. -/
theorem Conditions.accept_eq_false {cs : Conditions} {field : String} {c : Condition}
    (hc : cs.get? field = some c) (h : c.operator.isKnown = false) (context : Json)
    (record : Record) : accept (some cs) context record = false := by
  rw [← Predicate.selects_ofConditions, Predicate.ofConditions_eq_nothing hc h]
  rfl

/-! ## Other conditions in a snapshot -/

namespace Document

/-- Puts a document in the place of the condition on a field in the permission at an index. -/
def replaceCondition (d : Document) (i : Nat) (field : String) (new : Document) : Document :=
  d.editAt [.key "permissions", .index 6] <| editAt [.index i] <|
    editAt [.key "conditions", .index 3] <| editAt [.key field] fun _ => new

end Document

open Decoder

/-- Any value may stand where a condition does. -/
theorem Condition.follows_decoder (v : Json) :
    decoder.Follows v.depth (fun _ => .ofJson v) (fun _ => ofJson v.canonical) := by
  intro p d c hp _
  exact map_eq_ok.2 ⟨_, json_ofJson v p hp, rfl⟩

/-- A permission follows an edit of its conditions. -/
theorem Permission.follows_decoder {n : Nat} {edit : Document → Document}
    {effect : Conditions → Conditions} (h : (dict Condition.decoder).Follows n edit effect)
    (hnull : ∀ d, edit d = .null ↔ d = .null) :
    decoder.Follows (n + 1) (Document.editAt [.key "conditions", .index 3] edit)
      (fun p => { p with conditions := p.conditions.map effect }) := by
  have hread : (layout.read {}).Follows (n + 1)
      (Document.editAt [.key "conditions", .index 3] edit)
      (fun s => { s with conditions := s.conditions.map (Option.map effect) }) := by
    refine Layout.follows_read_editAt (by decide) rfl ?_ ?_ rfl
    · intro fld hfld hname
      simp only [layout, List.mem_cons, List.not_mem_nil, or_false] at hfld
      obtain rfl | rfl | rfl | rfl := hfld
      iterate 3 exact absurd hname (by decide)
      exact Field.follows_of (h.optional hnull) (fun s => by simp) (fun s v => rfl)
    · intro fld hfld hname
      simp only [layout, List.mem_cons, List.not_mem_nil, or_false] at hfld
      obtain rfl | rfl | rfl | rfl := hfld
      iterate 3 exact Field.follows_of (Follows.id _ n) (fun s => rfl) (fun s v => rfl)
      exact absurd rfl hname
  refine hread.map ?_
  intro s
  obtain ⟨entityType, actions, fields, conditions⟩ := s
  rcases conditions with _ | _ | cs <;> rfl

/-- A principal follows an edit of its permissions. -/
theorem Principal.follows_decoder {n : Nat} {edit : Document → Document}
    {effect : List Permission → List Permission}
    (h : (list Permission.decoder).Follows n edit effect)
    (hnull : ∀ d, edit d = .null ↔ d = .null) (hnil : effect [] = []) :
    decoder.Follows (n + 1) (Document.editAt [.key "permissions", .index 6] edit)
      (fun p => { p with permissions := effect p.permissions }) := by
  have hread : (layout.read {}).Follows (n + 1)
      (Document.editAt [.key "permissions", .index 6] edit)
      (fun s => { s with permissions := s.permissions.map effect }) := by
    refine Layout.follows_read_editAt (by decide) rfl ?_ ?_ rfl
    · intro fld hfld hname
      simp only [layout, List.mem_cons, List.not_mem_nil, or_false] at hfld
      obtain rfl | rfl | rfl | rfl | rfl | rfl | rfl | rfl := hfld
      iterate 6 exact absurd hname (by decide)
      · exact Field.follows_of (h.orDefault hnull hnil) (fun s => by simp) (fun s v => rfl)
      · exact absurd hname (by decide)
    · intro fld hfld hname
      simp only [layout, List.mem_cons, List.not_mem_nil, or_false] at hfld
      obtain rfl | rfl | rfl | rfl | rfl | rfl | rfl | rfl := hfld
      iterate 6 exact Field.follows_of (Follows.id _ n) (fun s => rfl) (fun s v => rfl)
      · exact absurd rfl hname
      · exact Field.follows_of (Follows.id _ n) (fun s => rfl) (fun s v => rfl)
  intro p d principal hp hd
  obtain ⟨s, hs, hfinish⟩ := bind_eq_ok.1 hd
  refine bind_eq_ok.2 ⟨_, hread hp hs, ?_⟩
  simp only [Draft.finish] at hfinish ⊢
  cases hid : s.id with
  | none =>
    rw [hid] at hfinish
    exact absurd hfinish (Place.fail_ne_ok _ _ _)
  | some id =>
    rw [hid] at hfinish
    cases hfinish
    cases s.permissions with
    | none => simp [hnil]
    | some permissions => rfl

/-- Editing a condition that a permission has is the same as giving it a new one. -/
theorem Permission.map_eq_withCondition {p : Permission} {field : String}
    (h : p.conditions.any (·.contains field) = true) (c : Condition) :
    { p with conditions := p.conditions.map (·.map fun k old => if k = field then c else old) } =
      p.withCondition field c := by
  obtain ⟨entityType, actions, fields, conditions⟩ := p
  cases conditions with
  | none => cases h
  | some cs => simp [withCondition, Dict.map_eq_insert h]

/-- **A snapshot decodes with any value as a condition**, and nothing else in it changes. -/
theorem Principal.decoder_replaceCondition {d : Document} {p : Principal} {i : Nat}
    {permission : Permission} {field : String} {v : Json} (hd : decoder .root d = .ok p)
    (hi : p.permissions[i]? = some permission)
    (hfield : permission.conditions.any (·.contains field) = true)
    (hv : v.depth + 4 ≤ nestingLimit) :
    decoder .root (d.replaceCondition i field (.ofJson v)) =
      .ok { p with permissions := p.permissions.set i
                    (permission.withCondition field (.ofJson v.canonical)) } := by
  -- One level for the conditions, one for the permission, one for the list, one for the principal.
  have hconditions := (Condition.follows_decoder v).dict_editAt field
  have hpermission := Permission.follows_decoder hconditions fun _ => Document.editChildren_eq_null
  have hlist := hpermission.list_editAt i
  have hprincipal := Principal.follows_decoder hlist (fun _ => Document.editChildren_eq_null)
    (List.modify_nil _ _)
  have : Inhabited Permission := ⟨permission⟩
  rw [Document.replaceCondition, hprincipal hv hd]
  simp only [List.modify_eq_set, hi, Option.getD_some, Permission.map_eq_withCondition hfield]

/-- **Malformed conditions deny and never break loading.** Put any value in the place of any
condition of a snapshot that decodes: the snapshot still decodes, with a condition that is
understood exactly if the value is an object whose only key names a comparison. If it is not
understood, the permission lets no record through, in any context and as a query, and writing
the condition and reading it again, any number of times, does not change that. -/
theorem Principal.decoder_malformedCondition {d : Document} {p : Principal} {i : Nat}
    {permission : Permission} {field : String} {v : Json} (hd : decoder .root d = .ok p)
    (hi : p.permissions[i]? = some permission)
    (hfield : permission.conditions.any (·.contains field) = true)
    (hv : v.depth + 4 ≤ nestingLimit) :
    ∃ c : Condition,
      decoder .root (d.replaceCondition i field (.ofJson v)) =
        .ok { p with permissions := p.permissions.set i (permission.withCondition field c) } ∧
      (c.operator.isKnown = true ↔
        ∃ name ∈ ["eq", "ne", "in", "notIn", "gt", "lt", "gte", "lte", "contains"],
          v.record?.map Dict.keys = some [name]) ∧
      (c.operator.isKnown = false → ∀ n : Nat,
        (Condition.reload^[n] c).operator.isKnown = false ∧
        ∀ (context : Json) (record : Record),
          Conditions.accept (permission.withCondition field (Condition.reload^[n] c)).conditions
            context record = false ∧
          Predicate.ofConditions
            (permission.withCondition field (Condition.reload^[n] c)).conditions
            context = .nothing) := by
  refine ⟨.ofJson v.canonical, decoder_replaceCondition hd hi hfield hv, ?_, ?_⟩
  · simp only [← Json.canonical_eq_singleton_iff]
    exact Condition.isKnown_ofJson_iff
  · intro hunknown n
    have hstill : (Condition.reload^[n] (.ofJson v.canonical)).operator.isKnown = false := by
      rw [Condition.operator_iterate_reload (Condition.isOwnName_ofJson _)]
      exact hunknown
    refine ⟨hstill, ?_⟩
    intro context record
    have hget : ((permission.conditions.getD .empty).insert field
        (Condition.reload^[n] (.ofJson v.canonical))).get? field =
          some (Condition.reload^[n] (.ofJson v.canonical)) := by
      rw [Dict.get?_insert, if_pos rfl]
    exact ⟨Conditions.accept_eq_false hget hstill context record,
      Predicate.ofConditions_eq_nothing hget hstill context⟩

/-! ### A condition with two keys -/

/-- A permission to read the vehicles of one depot. -/
def depotPermission : Permission :=
  { entityType := "vehicles"
    actions := ["read"]
    conditions := some (Dict.ofList [("depot", ⟨.known .eq, .literal (.string "north")⟩)]) }

/-- A principal with that permission, as it is written in a snapshot. -/
def depotSnapshot : Document :=
  .object
    [ ("id", .string "u-1"),
      ("permissions", .array
        [ .object
            [ ("entityType", .string "vehicles"),
              ("actions", .array [.string "read"] .closed),
              ("conditions", .object
                [("depot", .object [("eq", .string "north")] .closed)] .closed) ] .closed ]
        .closed) ] .closed

/-- With two comparisons in one condition the snapshot decodes, and the depot of no vehicle is
right any more. -/
theorem malformed_depotSnapshot :
    ∃ c : Condition,
      Principal.decoder .root (depotSnapshot.replaceCondition 0 "depot"
        (.ofJson (.object [("eq", .string "north"), ("ne", .string "south")]))) =
          .ok { id := "u-1", permissions := [depotPermission.withCondition "depot" c] } ∧
      ∀ (n : Nat) (context : Json) (record : Record),
        Conditions.accept (depotPermission.withCondition "depot"
          (Condition.reload^[n] c)).conditions context record = false := by
  have hdecoder : Principal.decoder .root depotSnapshot =
      .ok { id := "u-1", permissions := [depotPermission] } := rfl
  have hdepot : depotPermission.conditions.any (·.contains "depot") = true := rfl
  obtain ⟨c, hdecoded, hknown, hdenies⟩ := Principal.decoder_malformedCondition hdecoder
    (i := 0) rfl hdepot (v := .object [("eq", .string "north"), ("ne", .string "south")])
    (by decide)
  have hunknown : c.operator.isKnown = false := by
    rw [← Bool.not_eq_true, hknown]
    intro h
    obtain ⟨name, -, hone⟩ := h
    have hlength : some 2 = some 1 := congrArg (Option.map List.length) hone
    cases hlength
  exact ⟨c, hdecoded, fun n context record => ((hdenies hunknown n).2 context record).1⟩

end AccessPolicy
