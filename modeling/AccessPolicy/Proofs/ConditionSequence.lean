import AccessPolicy.Permission
import AccessPolicy.Proofs.Predicate.NormalForm
import AccessPolicy.Proofs.Scoping
import Mathlib.Data.List.Induction

/-!
# Conditions that are added one by one

A permission gets its conditions one after the other. A condition on a field that has one already
takes its place, so of the conditions that are given for a field the last one counts, and the order
of those on different fields does not matter. Together they are a conjunction: one more condition on
a new field takes away the records that it does not accept, or all records if the field is
reserved.

What a permission asks of a field is the view `Permission.condition?`. One more condition changes it
at one field; which condition stands there after many of them follows by induction from the end of
the list, where the last one is.

## Main definitions

* `Permission.condition?` — the condition of a permission on a field.
* `Permission.withConditions` — a permission to which conditions were added one by one.
* `LastGiven` — the last one of the conditions that were given for a field.

## Main statements

* `Permission.condition?_withCondition`, `Permission.condition?_withConditions` — one more
  condition, and many.
* `Permission.withCondition_comm` — conditions on different fields can be exchanged.
* `Permission.accept_withCondition` — a condition on a new field is one more restriction.
* `Permission.accept_iff_lastGiven` — only the conditions that were given last count.
* `Permission.accept_withConditions` — which records the conditions accept in the end.
-/
namespace AccessPolicy

/-! ## The last condition on a field -/

/-- The condition was given for the field, and none was given for it later. -/
def LastGiven (given : List (String × Condition)) (field : String) (c : Condition) : Prop :=
  ∃ before after, given = before ++ (field, c) :: after ∧ field ∉ after.map Prod.fst

variable {given : List (String × Condition)} {field : String} {c : Condition}

/-- One more condition is the last one for its own field and changes nothing for another one. -/
theorem lastGiven_concat {e : String × Condition} :
    LastGiven (given ++ [e]) field c ↔ e = (field, c) ∨ field ≠ e.1 ∧ LastGiven given field c := by
  constructor
  · rintro ⟨before, after, hsplit, hlater⟩
    -- Either nothing stands behind the condition, and it is `e`, or `e` stands last behind it.
    rcases List.eq_nil_or_concat' after with rfl | ⟨rest, x, rfl⟩
    · obtain ⟨-, hlast⟩ := List.append_inj' hsplit rfl
      exact .inl (List.singleton_inj.1 hlast)
    · rw [← List.cons_append, ← List.append_assoc] at hsplit
      obtain ⟨hgiven, hlast⟩ := List.append_inj' hsplit rfl
      obtain rfl := List.singleton_inj.1 hlast
      rw [List.map_append, List.mem_append, not_or] at hlater
      exact .inr ⟨by simpa using hlater.2, before, rest, hgiven, hlater.1⟩
  · rintro (rfl | ⟨hne, before, after, rfl, hlater⟩)
    · exact ⟨given, [], rfl, List.not_mem_nil⟩
    · refine ⟨before, after ++ [e], by simp, ?_⟩
      rw [List.map_append, List.mem_append, not_or]
      exact ⟨hlater, by simpa using hne⟩

/-- A field that a condition was given for has a last one, and no other field has. -/
theorem exists_lastGiven_iff : (∃ c, LastGiven given field c) ↔ field ∈ given.map Prod.fst := by
  induction given using List.reverseRecOn with
  | nil => simp [LastGiven]
  | append_singleton given e ih =>
    simp only [lastGiven_concat, exists_or, exists_and_left, ih, List.map_append, List.mem_append,
      List.map_singleton, List.mem_singleton]
    constructor
    · rintro (⟨c, rfl⟩ | ⟨-, h⟩)
      · exact .inr rfl
      · exact .inl h
    · intro h
      by_cases hfield : field = e.1
      · exact .inl ⟨e.2, by rw [hfield]⟩
      · exact .inr ⟨hfield, h.resolve_right hfield⟩

namespace Permission

/-! ## One more condition -/

/-- The condition of a permission on a field, if there is one. -/
def condition? (p : Permission) (field : String) : Option Condition :=
  p.conditions.bind (·.get? field)

/-- **One more condition** is the one on its field, and no other field is touched. -/
theorem condition?_withCondition (p : Permission) (field : String) (c : Condition)
    (other : String) : (p.withCondition field c).condition? other =
      if other = field then some c else p.condition? other := by
  simp only [condition?, withCondition, Option.bind_some, Dict.get?_insert]
  cases p.conditions <;> rfl

/-- **Conditions on different fields can be exchanged.** -/
theorem withCondition_comm (p : Permission) {field other : String} (hne : field ≠ other)
    (c d : Condition) : (p.withCondition field c).withCondition other d =
      (p.withCondition other d).withCondition field c := by
  simp only [withCondition, Option.getD_some, Dict.insert_comm hne]

/-- The records that the conditions of a permission accept, field by field. -/
theorem accept_iff {p : Permission} {context : Json} {record : Record} :
    Conditions.accept p.conditions context record = true ↔
      ∀ field c, p.condition? field = some c →
        isReserved field = false ∧ c.accepts context (record.get? field) = true := by
  simp only [condition?]
  cases p.conditions with
  | none => exact iff_of_true rfl nofun
  | some cs => exact Conditions.accept_some_iff

/-- **A condition on a new field is one more restriction.** -/
theorem accept_withCondition {p : Permission} (hnew : p.condition? field = none) (c : Condition)
    (context : Json) (record : Record) :
    Conditions.accept (p.withCondition field c).conditions context record = true ↔
      Conditions.accept p.conditions context record = true ∧
        isReserved field = false ∧ c.accepts context (record.get? field) = true := by
  simp only [accept_iff, condition?_withCondition]
  constructor
  · intro h
    refine ⟨fun other d hd => ?_, h field c (if_pos rfl)⟩
    have hne : other ≠ field := by
      rintro rfl
      rw [hnew] at hd
      cases hd
    exact h other d ((if_neg hne).trans hd)
  · rintro ⟨hold, hc⟩ other d hd
    by_cases hother : other = field
    · rw [if_pos hother] at hd
      cases hd
      exact hother ▸ hc
    · rw [if_neg hother] at hd
      exact hold other d hd

/-! ## Many conditions -/

/-- The permission after conditions have been added to it, one after the other. -/
def withConditions (p : Permission) (given : List (String × Condition)) : Permission :=
  given.foldl (fun q e => q.withCondition e.1 e.2) p

theorem withConditions_concat (p : Permission) (given : List (String × Condition))
    (e : String × Condition) :
    p.withConditions (given ++ [e]) = (p.withConditions given).withCondition e.1 e.2 := by
  rw [withConditions, List.foldl_append]
  rfl

/-- **The last condition given for a field** is the one on it; without one, the field keeps what it
had. -/
theorem condition?_withConditions {p : Permission} :
    (p.withConditions given).condition? field = some c ↔
      LastGiven given field c ∨ field ∉ given.map Prod.fst ∧ p.condition? field = some c := by
  induction given using List.reverseRecOn with
  | nil => simp [withConditions, LastGiven]
  | append_singleton given e ih =>
    rw [withConditions_concat, condition?_withCondition, lastGiven_concat, List.map_append,
      List.mem_append]
    by_cases hfield : field = e.1
    · subst hfield
      simp [Prod.ext_iff]
    · have hother : e ≠ (field, c) := by
        rintro rfl
        exact hfield rfl
      simp [hfield, hother, ih]

/-- A permission without conditions has none on any field. -/
theorem condition?_of_isUnconditional {p : Permission} (h : p.isUnconditional = true)
    (field : String) : p.condition? field = none := by
  rw [condition?]
  rcases isUnconditional_iff.1 h with hnone | hempty
  · rw [hnone, Option.bind_none]
  · rw [hempty]
    rfl

/-- On a permission that had no conditions, the conditions are those that were given last. -/
theorem condition?_eq_some_iff_lastGiven {p : Permission} (hp : p.isUnconditional = true) :
    (p.withConditions given).condition? field = some c ↔ LastGiven given field c := by
  rw [condition?_withConditions, condition?_of_isUnconditional hp]
  simp

/-- A record is accepted if no condition was given for a reserved name and those that were given
last accept it. -/
theorem accept_iff_lastGiven {p : Permission} (hp : p.isUnconditional = true) {context : Json}
    {record : Record} :
    Conditions.accept (p.withConditions given).conditions context record = true ↔
      (∀ e ∈ given, isReserved e.1 = false) ∧
        ∀ field c, LastGiven given field c → c.accepts context (record.get? field) = true := by
  simp only [accept_iff, condition?_eq_some_iff_lastGiven hp]
  constructor
  · intro h
    refine ⟨fun e he => ?_, fun field c hlast => (h field c hlast).2⟩
    obtain ⟨c, hlast⟩ := exists_lastGiven_iff.2 (List.mem_map_of_mem he)
    exact (h e.1 c hlast).1
  · rintro ⟨hreserved, haccepts⟩ field c hlast
    obtain ⟨e, he, rfl⟩ := List.mem_map.1 (exists_lastGiven_iff.1 ⟨c, hlast⟩)
    exact ⟨hreserved e he, haccepts e.1 c hlast⟩

/-- **Conditions that are added one by one** to a permission without conditions accept a record if
no condition was given for a reserved name and, for each field, the last one that was given for it
accepts the value of the field. Two conditions on different fields can be added in either order. One
on a field that had none accepts, of the records that were accepted before, those that pass it, and
none at all if the field is reserved. And the predicate of the conditions selects the same records
as the conditions keep. -/
theorem accept_withConditions {p : Permission} (hp : p.isUnconditional = true)
    (given : List (String × Condition)) :
    (∀ context record, Conditions.accept (p.withConditions given).conditions context record = true ↔
      (∀ e ∈ given, isReserved e.1 = false) ∧
        ∀ field c, LastGiven given field c → c.accepts context (record.get? field) = true) ∧
    (∀ field c other d, field ≠ other →
      ((p.withConditions given).withCondition field c).withCondition other d =
        ((p.withConditions given).withCondition other d).withCondition field c) ∧
    (∀ field c, field ∉ given.map Prod.fst → ∀ context record,
      (Conditions.accept ((p.withConditions given).withCondition field c).conditions context
          record = true ↔
        Conditions.accept (p.withConditions given).conditions context record = true ∧
          isReserved field = false ∧ c.accepts context (record.get? field) = true)) ∧
    ∀ context records,
      (Predicate.ofConditions (p.withConditions given).conditions context).select records =
        Conditions.filter (p.withConditions given).conditions context records := by
  refine ⟨fun context record => accept_iff_lastGiven hp,
    fun field c other d hne => withCondition_comm _ hne c d,
    fun field c hnew context record => ?_, fun context records => ?_⟩
  · have hnone : (p.withConditions given).condition? field = none := by
      rw [Option.eq_none_iff_forall_ne_some]
      intro d hd
      exact hnew (exists_lastGiven_iff.1 ⟨d, (condition?_eq_some_iff_lastGiven hp).1 hd⟩)
    exact accept_withCondition hnone c context record
  · rw [Predicate.select, Conditions.filter]
    congr 1
    funext record
    exact Predicate.selects_ofConditions _ context record

end Permission

/-! ### Two conditions on the status of a vehicle -/

/-- A permission to read vehicles, without conditions. -/
def anyVehicle : Permission := { entityType := "vehicles", actions := ["read"] }

/-- The status is a given one. -/
def hasStatus (status : String) : Condition := ⟨.known .eq, .literal (.string status)⟩

/-- Conditions on the status, on the depot, and on the status again. -/
def vehicleConditions : List (String × Condition) :=
  [ ("status", hasStatus "new"), ("depot", ⟨.known .eq, .reference ["user", "location"]⟩),
    ("status", hasStatus "open") ]

/-- A vehicle in the north. -/
def northernVehicle (status : String) : Record :=
  .ofList [("depot", .string "north"), ("status", .string status)]

/-- The context of a principal in the north. -/
def northernContext : Json := .object [("user", .object [("location", .string "north")])]

/-- The status has to be the one that was given last, so an open vehicle is accepted and a new one
is not; and nothing is accepted any more after a condition on a reserved name. -/
theorem accept_vehicleConditions :
    anyVehicle.isUnconditional = true ∧
      LastGiven vehicleConditions "status" (hasStatus "open") ∧
      Conditions.accept (anyVehicle.withConditions vehicleConditions).conditions northernContext
        (northernVehicle "open") = true ∧
      Conditions.accept (anyVehicle.withConditions vehicleConditions).conditions northernContext
        (northernVehicle "new") = false ∧
      "AND" ∉ vehicleConditions.map Prod.fst ∧
      ∀ context record, Conditions.accept
        ((anyVehicle.withConditions vehicleConditions).withCondition "AND"
          (hasStatus "new")).conditions context record = false := by
  have hplain : anyVehicle.isUnconditional = true := rfl
  have hlast : LastGiven vehicleConditions "status" (hasStatus "open") :=
    ⟨vehicleConditions.take 2, [], rfl, List.not_mem_nil⟩
  have hnew : "AND" ∉ vehicleConditions.map Prod.fst := by decide
  obtain ⟨haccept, -, hmore, -⟩ := Permission.accept_withConditions hplain vehicleConditions
  refine ⟨hplain, hlast, rfl, ?_, hnew, fun context record => ?_⟩
  · rw [← Bool.not_eq_true, haccept]
    rintro ⟨-, hall⟩
    exact absurd (hall "status" (hasStatus "open") hlast) (by decide)
  · rw [← Bool.not_eq_true, hmore "AND" (hasStatus "new") hnew]
    rintro ⟨-, hreserved, -⟩
    cases hreserved

end AccessPolicy
