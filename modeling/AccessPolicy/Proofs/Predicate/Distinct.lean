import AccessPolicy.Proofs.Json.Equality
import AccessPolicy.Proofs.Predicate.NormalForm

/-!
# Different predicates are written differently

A written predicate mixes values, filters and combinators: an equality with a number is the bare
number, every other filter is an object whose keys name the comparison, and the keys of a
conjunction stand where a disjunction has the key `OR`. Nothing is lost by that. The predicates of
two requests are written with the same value only if they are the same predicate; except that
nothing is written as the question for an identifier that no record carries, which a permission
could ask as well.

Whether two values are the same can be understood in two ways. They may be identical, or they may
be the same for `Json.same`, which does not tell the two zeros of the 64-bit format apart. Both
compare values part by part, which is all the argument needs: predicates whose written values are
the same in one of these ways have the same form, fields, comparisons and branches, and expected
values that are the same in that way.

## Main definitions

* `Json.ComparesParts` — a relation that compares values part by part.
* `Filter.Alike`, `Predicate.Alike` — filters and predicates that differ at most in expected
  values which are related.
* `Predicate.Confused` — nothing, and the question it is written as.

## Main statements

* `Filter.toJson_alike_iff` — written filters are related if the filters are alike.
* `Predicate.toJson_alike_iff` — the same for predicates in normal form.
* `Request.toJson_predicate_eq_iff` — what follows for the predicates of two requests.
-/
namespace AccessPolicy

/-- The entries of two lists agree: they have the same keys in the same order, and related
values. -/
def EntriesAlike {α : Type} (R : α → α → Prop) : List (String × α) → List (String × α) → Prop :=
  List.Forall₂ fun a b => a.1 = b.1 ∧ R a.2 b.2

section EntriesAlike
variable {α β : Type} {as bs : List (String × α)}

theorem EntriesAlike.map_fst {R : α → α → Prop} (h : EntriesAlike R as bs) :
    as.map Prod.fst = bs.map Prod.fst := by
  induction h with
  | nil => rfl
  | cons hab _ ih => rw [List.map_cons, List.map_cons, hab.1, ih]

theorem entriesAlike_map_iff {R : β → β → Prop} {f : α → β} :
    EntriesAlike R (as.map fun e => (e.1, f e.2)) (bs.map fun e => (e.1, f e.2)) ↔
      EntriesAlike (fun a b => R (f a) (f b)) as bs := by
  rw [EntriesAlike, List.forall₂_map_left_iff, List.forall₂_map_right_iff]
  rfl

theorem entriesAlike_eq_iff : EntriesAlike (· = ·) as bs ↔ as = bs := by
  simp only [EntriesAlike, ← Prod.ext_iff, List.forall₂_eq_eq_eq]

end EntriesAlike

/-! ## Values compared part by part -/

namespace Json

/-- A relation that compares values by their parts: texts as texts, arrays item by item and
objects field by field. Values of different kinds are never related. -/
structure ComparesParts (R : Json → Json → Prop) : Prop where
  /-- Related values are of one kind. -/
  kindName_eq : ∀ {a b}, R a b → a.kindName = b.kindName
  /-- The order of the two values does not matter. -/
  symm : ∀ {a b}, R a b → R b a
  /-- Texts are related if they are the same. -/
  string_iff : ∀ {s t}, R (string s) (string t) ↔ s = t
  /-- Arrays are related item by item. -/
  array_iff : ∀ {as bs}, R (array as) (array bs) ↔ List.Forall₂ R as bs
  /-- Objects are related field by field. -/
  object_iff : ∀ {as bs}, R (object as) (object bs) ↔ EntriesAlike R as bs

/-- Being identical compares values part by part. -/
theorem comparesParts_eq : ComparesParts (· = ·) where
  kindName_eq := congrArg kindName
  symm := Eq.symm
  string_iff := by simp
  array_iff := by simp
  object_iff := by simp [entriesAlike_eq_iff]

theorem kindName_eq_of_same {a b : Json} (h : a.same b = true) : a.kindName = b.kindName := by
  cases a <;> cases b <;> first | rfl | cases h

theorem sameItems_iff {as bs : List Json} :
    sameItems as bs = true ↔ List.Forall₂ (fun a b => a.same b = true) as bs := by
  induction as generalizing bs with
  | nil => cases bs <;> simp [sameItems]
  | cons a as ih => cases bs <;> simp [sameItems, ih]

theorem sameFields_iff {as bs : List (String × Json)} :
    sameFields as bs = true ↔ EntriesAlike (fun a b => a.same b = true) as bs := by
  induction as generalizing bs with
  | nil => cases bs <;> simp [sameFields, EntriesAlike]
  | cons a as ih => cases bs <;> simp [sameFields, ih, EntriesAlike]

/-- Sameness compares values part by part. -/
theorem comparesParts_same : ComparesParts fun a b => a.same b = true where
  kindName_eq := kindName_eq_of_same
  symm := by
    intro a b h
    rw [same_comm, h]
  string_iff := by simp [same]
  array_iff := sameItems_iff
  object_iff := sameFields_iff

end Json

variable {R : Json → Json → Prop}

/-! ## Filters -/

namespace Json

theorem isStructured_iff {v : Json} : v.isStructured = true ↔ v.kindName ∈ ["array", "object"] := by
  cases v <;> simp [isStructured, kindName]

/-- A value that stands for an equality inside another filter. -/
def wrapped (v : Json) : Json := if v.isStructured then .object [("equals", v)] else v

theorem isStructured_wrapped (v : Json) : v.wrapped.isStructured = v.isStructured := by
  rw [wrapped]
  cases hv : v.isStructured
  · exact hv
  · rfl

namespace ComparesParts

variable (h : ComparesParts R) {v w : Json}
include h

theorem isStructured_eq (hR : R v w) : v.isStructured = w.isStructured := by
  rw [Bool.eq_iff_iff, isStructured_iff, isStructured_iff, h.kindName_eq hR]

theorem comm : R v w ↔ R w v := ⟨h.symm, h.symm⟩

theorem eq_string {s : String} (hR : R v (.string s)) : v = .string s := by
  have hkind := h.kindName_eq hR
  cases v with
  | string t => rw [h.string_iff.1 hR]
  | _ => simp [kindName] at hkind

theorem wrapped_iff : R v.wrapped w.wrapped ↔ R v w := by
  by_cases heq : v.isStructured = w.isStructured
  · rw [wrapped, wrapped, heq]
    cases w.isStructured
    · simp
    · simp [h.object_iff, EntriesAlike]
  · refine iff_of_false (fun hR => heq ?_) fun hR => heq (h.isStructured_eq hR)
    rw [← isStructured_wrapped v, ← isStructured_wrapped w, h.isStructured_eq hR]

end ComparesParts

end Json

namespace Filter

variable {f g : Filter}

/-- Two filters compare in the same way, with related values. -/
def Alike (R : Json → Json → Prop) (f g : Filter) : Prop :=
  f.comparison = g.comparison ∧ R f.value g.value

theorem alike_eq : Alike (· = ·) = (· = ·) := by
  funext ⟨c, v⟩ ⟨d, w⟩
  simp [Alike]

/-- Whether a filter is written as its value alone. -/
def IsBare (f : Filter) : Prop := f.comparison = .eq ∧ f.value.isStructured = false

/-- The key that a filter is written with otherwise. -/
def key : Comparison → String
  | .eq => "equals"
  | .ne => "not"
  | c => c.name

/-- The value that stands at that key. -/
def operand (c : Comparison) (v : Json) : Json := if c = .ne then v.wrapped else v

/-- What stands after it. -/
def extras : Comparison → List (String × Json)
  | .contains => [("mode", .string "insensitive")]
  | _ => []

theorem key_injective : Function.Injective key := by
  intro c d h
  cases c <;> cases d <;> first | rfl | exact absurd h (by decide)

theorem toJson_of_isBare (h : f.IsBare) : f.toJson = f.value := by
  rw [toJson, h.1, h.2]
  rfl

theorem toJson_of_not_isBare (h : ¬ f.IsBare) :
    f.toJson =
      .object ((key f.comparison, operand f.comparison f.value) :: extras f.comparison) := by
  obtain ⟨c, v⟩ := f
  cases c with
  | eq =>
    have hstructured : v.isStructured = true := by
      rw [← Bool.not_eq_false]
      exact fun hv => h ⟨rfl, hv⟩
    simp [toJson, hstructured, key, operand, extras]
  | _ => rfl

theorem isBare_iff : f.IsBare ↔ f.toJson.isStructured = false := by
  by_cases h : f.IsBare
  · rw [toJson_of_isBare h]
    exact iff_of_true h h.2
  · rw [toJson_of_not_isBare h]
    exact iff_of_false h nofun

theorem operand_alike_iff (h : Json.ComparesParts R) (c : Comparison) {v w : Json} :
    R (operand c v) (operand c w) ↔ R v w := by
  rw [operand, operand]
  by_cases hne : c = .ne
  · rw [if_pos hne, if_pos hne, h.wrapped_iff]
  · rw [if_neg hne, if_neg hne]

theorem extras_alike (h : Json.ComparesParts R) (c : Comparison) :
    EntriesAlike R (extras c) (extras c) := by
  cases c with
  | contains => exact .cons ⟨rfl, h.string_iff.2 rfl⟩ .nil
  | _ => exact .nil

/-- The first key of a written filter tells which comparison it is. -/
theorem entries_alike_iff (h : Json.ComparesParts R) {c d : Comparison} {v w : Json} :
    EntriesAlike R ((key c, operand c v) :: extras c) ((key d, operand d w) :: extras d) ↔
      c = d ∧ R v w := by
  rw [EntriesAlike, List.forall₂_cons]
  constructor
  · rintro ⟨⟨hkey, hoperand⟩, -⟩
    obtain rfl := key_injective hkey
    exact ⟨rfl, (operand_alike_iff h c).1 hoperand⟩
  · rintro ⟨rfl, hvalue⟩
    exact ⟨⟨rfl, (operand_alike_iff h c).2 hvalue⟩, extras_alike h c⟩

/-- **Written filters** are related exactly if the filters are alike. -/
theorem toJson_alike_iff (h : Json.ComparesParts R) : R f.toJson g.toJson ↔ f.Alike R g := by
  by_cases hbare : f.IsBare ↔ g.IsBare
  · by_cases hg : g.IsBare
    · have hf := hbare.2 hg
      rw [toJson_of_isBare hf, toJson_of_isBare hg]
      simp [Alike, hf.1, hg.1]
    · have hf := mt hbare.1 hg
      rw [toJson_of_not_isBare hf, toJson_of_not_isBare hg, h.object_iff]
      exact entries_alike_iff h
  · refine iff_of_false (fun hR => hbare ?_) fun hfg => hbare ?_
    · rw [isBare_iff, isBare_iff, h.isStructured_eq hR]
    · rw [IsBare, IsBare, hfg.1, h.isStructured_eq hfg.2]

end Filter

/-! ## Predicates -/

namespace Predicate

/-- Two predicates have the same form, with filters on the same fields that compare in the same
way, and with the same order of branches; the values of their filters are related. -/
inductive Alike (R : Json → Json → Prop) : Predicate → Predicate → Prop
  | all : Alike R .all .all
  | nothing : Alike R .nothing .nothing
  | every (filters filters' : Dict Filter)
      (h : EntriesAlike (Filter.Alike R) filters.entries filters'.entries) :
      Alike R (.every filters) (.every filters')
  | either (ps qs : List Predicate) (h : List.Forall₂ (Alike R) ps qs) :
      Alike R (.either ps) (.either qs)

mutual

theorem eq_of_alike : ∀ {p q : Predicate}, p.Alike (· = ·) q → p = q
  | .all, _, .all => rfl
  | .nothing, _, .nothing => rfl
  | .every _, _, .every _ _ h => by
    rw [Filter.alike_eq, entriesAlike_eq_iff] at h
    rw [Dict.ext h]
  | .either ps, _, .either _ qs h => by rw [eq_of_forall₂_alike h]

theorem eq_of_forall₂_alike : ∀ {ps qs : List Predicate},
    List.Forall₂ (Alike (· = ·)) ps qs → ps = qs
  | [], _, .nil => rfl
  | p :: ps, _, .cons h hrest => by rw [eq_of_alike h, eq_of_forall₂_alike hrest]

end

mutual

theorem alike_refl {R : Json → Json → Prop} (hR : ∀ v, R v v) : ∀ p : Predicate, p.Alike R p
  | .all => .all
  | .nothing => .nothing
  | .every _ => .every _ _ (List.forall₂_same.2 fun _ _ => ⟨rfl, rfl, hR _⟩)
  | .either ps => .either _ _ (forall₂_alike_refl hR ps)

theorem forall₂_alike_refl {R : Json → Json → Prop} (hR : ∀ v, R v v) :
    ∀ ps : List Predicate, List.Forall₂ (Alike R) ps ps
  | [] => .nil
  | p :: ps => .cons (alike_refl hR p) (forall₂_alike_refl hR ps)

end

/-- Predicates with identical values are the same. -/
theorem alike_eq_iff {p q : Predicate} : p.Alike (· = ·) q ↔ p = q := by
  constructor
  · exact eq_of_alike
  · rintro rfl
    exact alike_refl (fun _ => rfl) p

/-! ### The keys of a written predicate -/

/-- The keys of a written predicate. -/
def writtenKeys : Predicate → List String
  | all => []
  | nothing => ["id"]
  | every filters => filters.keys
  | either _ => ["OR"]

variable {p q : Predicate}

theorem exists_toJson_eq_object (p : Predicate) :
    ∃ fields, p.toJson = .object fields ∧ fields.map Prod.fst = p.writtenKeys := by
  cases p with
  | every filters => exact ⟨_, rfl, filters.keys_map _⟩
  | _ => exact ⟨_, rfl, rfl⟩

theorem writtenKeys_eq (h : Json.ComparesParts R) (hR : R p.toJson q.toJson) :
    p.writtenKeys = q.writtenKeys := by
  obtain ⟨fields, hp, hpkeys⟩ := p.exists_toJson_eq_object
  obtain ⟨fields', hq, hqkeys⟩ := q.exists_toJson_eq_object
  rw [hp, hq, h.object_iff] at hR
  rw [← hpkeys, ← hqkeys, hR.map_fst]

theorem Alike.writtenKeys_eq (h : p.Alike R q) : p.writtenKeys = q.writtenKeys := by
  cases h with
  | every _ _ h => exact h.map_fst
  | _ => rfl

/-- A conjunction is written with some key, and not with that of a disjunction. -/
theorem IsConjunction.writtenKeys_ne (h : p.IsConjunction) :
    p.writtenKeys ≠ [] ∧ p.writtenKeys ≠ ["OR"] := by
  obtain ⟨filters, hsome, hfields⟩ := h
  have hreserved : filters.keys ≠ ["OR"] := by
    intro hkeys
    have hmem : "OR" ∈ filters.keys := by simp [hkeys]
    obtain ⟨e, he, hkey⟩ := List.mem_map.1 hmem
    refine (hfields "OR" e.2 (Dict.get?_eq_some_iff.2 ?_)).1 (by decide)
    rwa [← hkey]
  exact ⟨hsome, hreserved⟩

/-! ### Forms -/

/-- **Written conjunctions** are related exactly if the conjunctions are alike. -/
theorem every_alike_iff (h : Json.ComparesParts R) {filters filters' : Dict Filter} :
    R (every filters).toJson (every filters').toJson ↔
      (every filters).Alike R (every filters') := by
  have hentries : R (every filters).toJson (every filters').toJson ↔
      EntriesAlike (Filter.Alike R) filters.entries filters'.entries := by
    rw [toJson, toJson, Json.ofDict, Json.ofDict, h.object_iff, Dict.map, Dict.map,
      entriesAlike_map_iff]
    simp only [Filter.toJson_alike_iff h]
  rw [hentries]
  constructor
  · intro hfilters
    exact .every filters filters' hfilters
  · intro hfilters
    cases hfilters with
    | every _ _ hfilters => exact hfilters

theorem IsConjunction.toJson_alike_iff (h : Json.ComparesParts R) (hp : p.IsConjunction)
    (hq : q.IsConjunction) : R p.toJson q.toJson ↔ p.Alike R q := by
  cases hp
  cases hq
  exact every_alike_iff h

/-- **Written disjunctions** are related exactly if the disjunctions are alike. -/
theorem either_alike_iff (h : Json.ComparesParts R) {ps qs : List Predicate}
    (hp : ∀ p ∈ ps, p.IsConjunction) (hq : ∀ q ∈ qs, q.IsConjunction) :
    R (either ps).toJson (either qs).toJson ↔ (either ps).Alike R (either qs) := by
  have hitems : List.Forall₂ R (toItems ps) (toItems qs) ↔ List.Forall₂ (Alike R) ps qs := by
    induction ps generalizing qs with
    | nil => cases qs <;> simp [toItems]
    | cons p ps ih =>
      cases qs with
      | nil => simp [toItems]
      | cons q qs =>
        rw [List.forall_mem_cons] at hp hq
        simp only [toItems, List.forall₂_cons, hp.1.toJson_alike_iff h hq.1, ih hp.2 hq.2]
  have hbranches : R (either ps).toJson (either qs).toJson ↔
      List.Forall₂ R (toItems ps) (toItems qs) := by
    rw [toJson, toJson, h.object_iff]
    simp [EntriesAlike, h.array_iff]
  rw [hbranches, hitems]
  constructor
  · exact .either ps qs
  · intro hparts
    cases hparts with
    | either _ _ hparts => exact hparts

/-- Predicates in normal form that are not nothing are written alike exactly if they are alike.
The keys tell the forms apart. -/
theorem toJson_alike_iff_of_ne_nothing (h : Json.ComparesParts R) (hp : p.IsNormal)
    (hq : q.IsNormal) (hpsome : p ≠ .nothing) (hqsome : q ≠ .nothing) :
    R p.toJson q.toJson ↔ p.Alike R q := by
  by_cases hkeys : p.writtenKeys = q.writtenKeys
  · cases hp with
    | nothing => exact absurd rfl hpsome
    | all =>
      cases hq with
      | nothing => exact absurd rfl hqsome
      | all => exact iff_of_true (h.object_iff.2 .nil) .all
      | conjunction _ hq => exact absurd hkeys.symm hq.writtenKeys_ne.1
      | either => cases hkeys
    | conjunction _ hp =>
      cases hq with
      | nothing => exact absurd rfl hqsome
      | all => exact absurd hkeys hp.writtenKeys_ne.1
      | conjunction _ hq => exact hp.toJson_alike_iff h hq
      | either => exact absurd hkeys hp.writtenKeys_ne.2
    | either ps _ hp =>
      cases hq with
      | nothing => exact absurd rfl hqsome
      | all => cases hkeys
      | conjunction _ hq => exact absurd hkeys.symm hq.writtenKeys_ne.2
      | either qs _ hq => exact either_alike_iff h hp hq
  · exact iff_of_false (fun hR => hkeys (writtenKeys_eq h hR)) fun hpq => hkeys hpq.writtenKeys_eq

/-! ### Nothing -/

/-- The question for the identifier that no record carries. -/
def noAccess : Predicate := .every (.ofList [("id", ⟨.eq, .string noAccessId⟩)])

/-- One of the predicates is nothing, and the other is the question that nothing is written as. -/
def Confused (p q : Predicate) : Prop :=
  p = .nothing ∧ q = noAccess ∨ p = noAccess ∧ q = .nothing

theorem toJson_noAccess : noAccess.toJson = nothing.toJson := rfl

theorem isConjunction_noAccess : noAccess.IsConjunction := by
  refine .every _ (by decide) fun field f hf => ?_
  obtain ⟨rfl, rfl⟩ : field = "id" ∧ f = ⟨.eq, .string noAccessId⟩ := by
    simpa using Dict.mem_of_get?_ofList hf
  exact ⟨by decide, ⟨by decide, by decide, by decide⟩⟩

theorem alike_noAccess_iff (h : Json.ComparesParts R) : p.Alike R noAccess ↔ p = noAccess := by
  constructor
  · intro hp
    rw [noAccess] at hp
    cases hp with
    | every filters _ hentries =>
      obtain ⟨⟨field, f⟩, rest, ⟨hfield, hcomparison, hvalue⟩, hrest, hfilters⟩ :=
        List.forall₂_cons_right_iff.1 hentries
      cases hrest
      obtain ⟨c, v⟩ := f
      obtain rfl : field = "id" := hfield
      obtain rfl : c = .eq := hcomparison
      obtain rfl : v = .string noAccessId := h.eq_string hvalue
      exact congrArg every (Dict.ext hfilters)
  · rintro rfl
    exact .every _ _ (.cons ⟨rfl, rfl, h.string_iff.2 rfl⟩ .nil)

/-- Only the question is written like nothing. -/
theorem toJson_nothing_alike_iff (h : Json.ComparesParts R) (hp : p.IsNormal)
    (hsome : p ≠ .nothing) : R p.toJson nothing.toJson ↔ p = noAccess := by
  rw [← toJson_noAccess, toJson_alike_iff_of_ne_nothing h hp
    (.conjunction noAccess isConjunction_noAccess) hsome nofun, alike_noAccess_iff h]

/-- **Written predicates in normal form** are related exactly if the predicates are alike, or if
one is nothing and the other the question it is written as. -/
theorem toJson_alike_iff (h : Json.ComparesParts R) (hp : p.IsNormal) (hq : q.IsNormal) :
    R p.toJson q.toJson ↔ p.Alike R q ∨ p.Confused q := by
  have hne : noAccess ≠ .nothing := nofun
  by_cases hpsome : p = .nothing <;> by_cases hqsome : q = .nothing
  · obtain ⟨rfl, rfl⟩ := And.intro hpsome hqsome
    have hrefl : R nothing.toJson nothing.toJson :=
      h.object_iff.2 (.cons ⟨rfl, h.string_iff.2 rfl⟩ .nil)
    exact iff_of_true hrefl (.inl .nothing)
  · have halike : ¬ nothing.Alike R q := by
      intro halike
      cases halike
      exact hqsome rfl
    rw [h.comm, hpsome, toJson_nothing_alike_iff h hq hqsome]
    simp [Confused, halike, hne.symm]
  · have halike : ¬ p.Alike R nothing := by
      intro halike
      cases halike
      exact hpsome rfl
    rw [hqsome, toJson_nothing_alike_iff h hp hpsome]
    simp [Confused, halike, hne.symm]
  · rw [toJson_alike_iff_of_ne_nothing h hp hq hpsome hqsome]
    simp [Confused, hpsome, hqsome]

end Predicate

/-- **Writing the predicate of a request loses nothing.** Two requests have predicates that are
written with the same value exactly if they have the same predicate, or if one selects nothing
and the other asks for the identifier that stands for it. It makes no difference if the values
are only the same up to the sign of a zero; then so are the expected values of the filters, and
the predicates are the same in everything else. -/
theorem Request.toJson_predicate_eq_iff (r s : Request) :
    (r.predicate.toJson = s.predicate.toJson ↔
      r.predicate = s.predicate ∨ r.predicate.Confused s.predicate) ∧
    (r.predicate.toJson.same s.predicate.toJson = true ↔
      r.predicate.Alike (fun v w => v.same w = true) s.predicate ∨
        r.predicate.Confused s.predicate) := by
  constructor
  · rw [Predicate.toJson_alike_iff Json.comparesParts_eq r.isNormal_predicate s.isNormal_predicate,
      Predicate.alike_eq_iff]
  · exact Predicate.toJson_alike_iff Json.comparesParts_same r.isNormal_predicate
      s.isNormal_predicate

/-- A permission for the documents with the identifier that no document has. -/
def absentDocuments : Permission where
  entityType := "documents"
  actions := ["read"]
  conditions := some <| .ofList [("id", ⟨.known .eq, .literal (.string noAccessId)⟩)]

/-- A request of a principal without any permission. -/
def strangerRequest : Request where
  principal := { id := "u-7", permissions := [] }
  action := "read"
  entityType := "documents"

/-- The same request of a principal who may read the documents that do not exist. -/
def absenteeRequest : Request where
  principal := { id := "u-8", permissions := [absentDocuments] }
  action := "read"
  entityType := "documents"

/-- The exception occurs: the two requests have different predicates, which are written with the
same value. -/
theorem toJson_predicate_strangerRequest :
    strangerRequest.predicate ≠ absenteeRequest.predicate ∧
      strangerRequest.predicate.toJson = absenteeRequest.predicate.toJson := by
  have hnothing : strangerRequest.predicate = .nothing := rfl
  have hquestion : absenteeRequest.predicate = Predicate.noAccess := rfl
  refine ⟨?_, ?_⟩
  · rw [hnothing, hquestion]
    exact nofun
  · obtain ⟨hwritten, -⟩ := Request.toJson_predicate_eq_iff strangerRequest absenteeRequest
    exact hwritten.2 (.inr (.inl ⟨hnothing, hquestion⟩))

end AccessPolicy
