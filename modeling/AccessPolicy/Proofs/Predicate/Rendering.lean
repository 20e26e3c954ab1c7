import AccessPolicy.Predicate.Dialect
import AccessPolicy.Proofs.Predicate.NormalForm

/-!
# Written predicates mean what predicates mean

A store sees only the JSON value that writes a predicate. Data and syntax share that value: an
expected value may itself be an object whose keys look like comparisons, and a field may be
named like a combinator. Reading the value by the rules of the dialect gives back the records
that the predicate selects.

Two facts carry the proof. A filter never writes an object or an array bare, so every clause is
read as the filter that wrote it. And no filter of a generated predicate stands on a reserved
name, so no entry for a field is read as a disjunction; this is the invariant
`Predicate.AvoidsReserved`, which the normal form of generated predicates includes.

The predicate that selects nothing is written as a question for an identifier that no stored
record carries. Records that do carry it are the reason for the hypothesis below.

## Main definitions

* `Predicate.AvoidsReserved` — no filter stands on a reserved name.

## Main statements

* `Dialect.clause?_toJson` — a written filter is read as that filter.
* `Predicate.selects?_toJson` — a written predicate is read as that predicate.
* `Request.selects?_toJson_predicate` — a store selects what the request may see.
-/
namespace AccessPolicy

/-! ## Written filters -/

namespace Dialect

/-- A value that is neither an array nor an object asks for equality when it stands alone. -/
theorem clause?_of_not_isStructured {v : Json} (h : v.isStructured = false)
    (value : Option Json) : clause? value v = some (Comparison.eq.holds value v) := by
  cases v with
  | array items => cases h
  | object fields => cases h
  | _ => rfl

/-- An equality is read as an equality, whether it is written bare or by its key. -/
theorem clause?_equality (value : Option Json) (v : Json) :
    clause? value (if v.isStructured then .object [("equals", v)] else v) =
      some (Comparison.eq.holds value v) := by
  by_cases h : v.isStructured = true
  · rw [if_pos h]
    simp [clause?, keys?, comparison?, both]
  · rw [if_neg h]
    exact clause?_of_not_isStructured (by simpa using h) value

/-- **A written filter is read as that filter**, whatever its value looks like. -/
theorem clause?_toJson (f : Filter) (value : Option Json) :
    clause? value f.toJson = some (f.passes value) := by
  obtain ⟨c, v⟩ := f
  cases c with
  | eq => exact clause?_equality value v
  | ne =>
    have hclause := clause?_equality value v
    simp only [Filter.toJson, clause?, keys?, comparison?, hclause]
    simp [both, Filter.passes, Comparison.holds]
  | contains =>
    simp [Filter.toJson, clause?, keys?, comparison?, mode?, both, Filter.passes]
  | _ =>
    simp [Filter.toJson, Comparison.name, clause?, keys?, comparison?, both, Filter.passes]

/-- Filters on names that are not reserved are read as their conjunction. -/
theorem entries?_filters (record : Record) (filters : List (String × Filter))
    (h : ∀ e ∈ filters, isReserved e.1 = false) :
    entries? record (filters.map fun e => (e.1, e.2.toJson)) =
      some (filters.all fun e => e.2.passes (record.get? e.1)) := by
  induction filters with
  | nil => simp [entries?]
  | cons e rest ih =>
    have hhead : e.1 ≠ "OR" := by
      intro heq
      have hreserved := h e List.mem_cons_self
      rw [heq] at hreserved
      exact absurd hreserved (by decide)
    have htail := ih fun e he => h e (List.mem_cons_of_mem _ he)
    rw [List.map_cons, entries?, htail, List.all_cons]
    simp [hhead, clause?_toJson, both]

end Dialect

/-! ## Reserved names -/

namespace Predicate

mutual

/-- No filter of the predicate stands on a reserved name. -/
def AvoidsReserved : Predicate → Prop
  | all => True
  | nothing => True
  | every filters => ∀ e ∈ filters.entries, isReserved e.1 = false
  | either ps => AllAvoidReserved ps

/-- No filter of any of the predicates stands on a reserved name. -/
def AllAvoidReserved : List Predicate → Prop
  | [] => True
  | p :: rest => AvoidsReserved p ∧ AllAvoidReserved rest

end

theorem allAvoidReserved_iff {ps : List Predicate} :
    AllAvoidReserved ps ↔ ∀ p ∈ ps, p.AvoidsReserved := by
  induction ps with
  | nil => simp [AllAvoidReserved]
  | cons p rest ih => simp [AllAvoidReserved, ih]

theorem IsConjunction.avoidsReserved {p : Predicate} (h : p.IsConjunction) :
    p.AvoidsReserved := by
  obtain ⟨filters, -, hfields⟩ := h
  rintro ⟨field, f⟩ he
  have hfield : field ∉ reservedNames := (hfields field f (Dict.get?_eq_some_iff.2 he)).1
  simpa [isReserved] using hfield

/-- A predicate in normal form avoids reserved names. -/
theorem IsNormal.avoidsReserved {p : Predicate} (h : p.IsNormal) : p.AvoidsReserved := by
  cases h with
  | all => exact trivial
  | nothing => exact trivial
  | conjunction p hp => exact hp.avoidsReserved
  | either ps _ hps => exact allAvoidReserved_iff.2 fun q hq => (hps q hq).avoidsReserved

end Predicate

/-- The predicate of a request avoids reserved names. -/
theorem Request.avoidsReserved_predicate (r : Request) : r.predicate.AvoidsReserved :=
  r.isNormal_predicate.avoidsReserved

/-! ## Written predicates -/

namespace Predicate

/-- Asking for the identifier that stands for nothing selects no other record. -/
theorem holds_noAccessId {record : Record} (h : record.get? "id" ≠ some (.string noAccessId)) :
    Comparison.eq.holds (record.get? "id") (.string noAccessId) = false := by
  cases hid : record.get? "id" with
  | none => rfl
  | some v =>
    cases v with
    | string s =>
      have hne : s ≠ noAccessId := by
        intro hs
        exact h (by rw [hid, hs])
      simpa [Comparison.holds, Comparison.equals, Json.equal, Json.same] using hne
    | _ => rfl

mutual

/-- **A written predicate is read as that predicate.** Reading always gives an answer, and for a
record that does not carry the reserved identifier it is the answer of the predicate. -/
theorem selects?_toJson (record : Record) : ∀ p : Predicate, p.AvoidsReserved →
    ∃ answer, Dialect.selects? record p.toJson = some answer ∧
      (record.get? "id" ≠ some (.string noAccessId) → answer = p.selects record)
  | all, _ => ⟨true, rfl, fun _ => rfl⟩
  | nothing, _ => by
    refine ⟨Comparison.eq.holds (record.get? "id") (.string noAccessId), ?_, ?_⟩
    · simp [toJson, Dialect.selects?, Dialect.entries?, Dialect.both, Dialect.clause?]
    · intro h
      rw [holds_noAccessId h]
      rfl
  | every filters, h => by
    refine ⟨_, Dialect.entries?_filters record filters.entries h, ?_⟩
    intro _
    rfl
  | either ps, h => by
    obtain ⟨answer, hread, hanswer⟩ := items?_toItems record ps h
    refine ⟨answer, ?_, hanswer⟩
    simp [toJson, Dialect.selects?, Dialect.entries?, Dialect.disjunction?, Dialect.both, hread]

/-- Written predicates are read as their disjunction. -/
theorem items?_toItems (record : Record) : ∀ ps : List Predicate, AllAvoidReserved ps →
    ∃ answer, Dialect.items? record (toItems ps) = some answer ∧
      (record.get? "id" ≠ some (.string noAccessId) → answer = selectsAny record ps)
  | [], _ => ⟨false, rfl, fun _ => rfl⟩
  | p :: rest, h => by
    obtain ⟨here, hhere, hselects⟩ := selects?_toJson record p h.1
    obtain ⟨there, hthere, hselectsAny⟩ := items?_toItems record rest h.2
    refine ⟨here || there, ?_, ?_⟩
    · simp [toItems, Dialect.items?, Dialect.either, hhere, hthere]
    · intro hid
      rw [hselects hid, hselectsAny hid]
      rfl

end

end Predicate

namespace Request

/-- **A store selects what the request may see.** What the predicate of a request is written as
has no key outside the dialect, since it is read to an answer for every record; and for a
record that does not carry the reserved identifier, the answer is that of the record check. -/
theorem selects?_toJson_predicate (r : Request) (record : Record) :
    (Dialect.selects? record r.predicate.toJson).isSome = true ∧
      (record.get? "id" ≠ some (.string noAccessId) →
        Dialect.selects? record r.predicate.toJson = some (r.seesRecord record)) := by
  obtain ⟨answer, hread, hanswer⟩ :=
    Predicate.selects?_toJson record r.predicate r.avoidsReserved_predicate
  refine ⟨?_, ?_⟩
  · rw [hread]
    rfl
  · intro hid
    rw [hread, hanswer hid, selects_predicate]

end Request

/-- A request for vehicles whose conditions ask for inequality with an object that looks like a
filter, and for membership in a list that holds a reference. -/
def vehicleRequest : Request where
  principal :=
    { id := "u-1"
      department := some "Ops"
      permissions :=
        [ { entityType := "vehicles"
            actions := ["read"]
            conditions := some <| .ofList
              [ ("meta", ⟨.known .ne, .literal (.object [("in", .array [.string "x"])])⟩),
                ("department", ⟨.known .oneOf, .list [.reference ["user", "department"]]⟩) ] } ] }
  action := "read"
  entityType := "vehicles"

/-- A vehicle that the object would accept if it were read as a filter. -/
def vehicleRecord : Record :=
  .ofList [("id", .number (.int 7)), ("department", .string "Ops"), ("meta", .string "x")]

/-- The object is read as data, so the vehicle is selected. -/
theorem selects?_vehicleRequest :
    vehicleRecord.get? "id" ≠ some (.string noAccessId) ∧
      Dialect.selects? vehicleRecord vehicleRequest.predicate.toJson = some true := by
  have hid : vehicleRecord.get? "id" ≠ some (.string noAccessId) := by
    intro h
    cases h
  have hsees : vehicleRequest.seesRecord vehicleRecord = true := by decide
  refine ⟨hid, ?_⟩
  rw [(Request.selects?_toJson_predicate vehicleRequest vehicleRecord).2 hid, hsees]

end AccessPolicy
