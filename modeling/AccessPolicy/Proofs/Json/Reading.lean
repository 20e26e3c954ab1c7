import AccessPolicy.Json.Reader
import AccessPolicy.Proofs.Json.Grammar

/-!
# Values are read to their end

Reading goes from state to state, and a state remembers the containers around the current place. A
value that stands at a place is read without looking at them: after its last token it is complete
and is put into what is around it. For an outermost value that is the end of reading.

The proof goes along the grammar, with one statement for values, one for the items of an array and
one for the members of an object, each about every state in which such a thing may begin.

## Main definitions

* `Reader.feed`, `Reader.settle` — the outcome of some tokens, and the document that an outcome
  and the tokens after it settle.
* `Reader.Match` — tokens with given symbols.

## Main statements

* `Reader.settle_append` — reading goes on from the outcome of the first tokens.
* `Reader.feed_value` — a value is read to its end.
* `Reader.eq_nil_of_feed_done` — a complete value cannot be part of a longer one.
-/
namespace AccessPolicy

open Grammar

/-- Whether a document is an array or an object. -/
def Document.isContainer : Document → Bool
  | array _ _ => true
  | object _ _ => true
  | _ => false

namespace Reader

/-! ## Runs -/

/-- The outcome of further tokens after an outcome. There is none if reading has ended before. -/
def feed : Outcome → List Token → Option Outcome
  | o, [] => some o
  | .more s, t :: ts => feed (step s (some t)) ts
  | .done _, _ :: _ => none
  | .stopped _, _ :: _ => none

/-- The document that an outcome and further tokens settle. -/
def settle : Outcome → List Token → Document
  | .more s, ts => run s ts
  | .done d, _ => d
  | .stopped d, _ => d

@[simp] theorem feed_nil (o : Outcome) : feed o [] = some o := by
  cases o <;> rfl

@[simp] theorem feed_more_cons (s : State) (t : Token) (ts : List Token) :
    feed (.more s) (t :: ts) = feed (step s (some t)) ts := rfl

theorem run_cons (s : State) (t : Token) (ts : List Token) :
    run s (t :: ts) = settle (step s (some t)) ts := by
  rw [run]
  cases step s (some t) <;> rfl

theorem feed_append (o : Outcome) (ts ts' : List Token) :
    feed o (ts ++ ts') = (feed o ts).bind fun o' => feed o' ts' := by
  induction ts generalizing o with
  | nil => simp
  | cons t ts ih =>
    cases o with
    | more s => exact ih (step s (some t))
    | _ => rfl

/-- **Reading goes on** from the outcome of the first tokens. -/
theorem settle_append {o o' : Outcome} {ts : List Token} (h : feed o ts = some o')
    (rest : List Token) : settle o (ts ++ rest) = settle o' rest := by
  induction ts generalizing o with
  | nil =>
    rw [feed_nil] at h
    cases h
    rfl
  | cons t ts ih =>
    cases o with
    | more s =>
      rw [List.cons_append, settle, run_cons]
      exact ih h
    | _ => cases h

/-! ## Values are read -/

theorem eq_of_symbol?_mark {t u : Token} {c : Char} (ht : t.symbol? = some (.mark c))
    (hu : u.symbol? = some (.mark c)) : t = u := by
  cases t <;> cases ht <;> cases u <;> simp [Token.symbol?] at hu ⊢

/-- A scalar and a string are complete at once. -/
theorem exists_put_of_leaf {t : Token} (h : t.symbol? = some .scalar ∨ t.symbol? = some .string) :
    ∃ d : Document, d.isContainer = false ∧
      ∀ around, startValue around (some t) = put d around := by
  cases t with
  | null => exact ⟨.null, rfl, fun _ => rfl⟩
  | bool b => exact ⟨.bool b, rfl, fun _ => rfl⟩
  | number n =>
    cases n with
    | none => exact ⟨.unreadable .malformed none, rfl, fun _ => rfl⟩
    | some n => exact ⟨.number n, rfl, fun _ => rfl⟩
  | string s =>
    cases s with
    | error flaw => exact ⟨.unreadable flaw none, rfl, fun _ => rfl⟩
    | ok s => exact ⟨.string s, rfl, fun _ => rfl⟩
  | _ => simp [Token.symbol?] at h

/-- A key is followed by its colon. If it cannot be read, it has spoiled the object. -/
theorem exists_key {t : Token} (h : t.symbol? = some .string) (o : OpenObject) :
    ∃ o' key, (key = none → o'.spoiled ≠ none) ∧
      ∀ first around, step (.key first o around) (some t) = .more (.colon o' key around) := by
  cases t with
  | string s =>
    cases s with
    | error flaw =>
      refine ⟨o.spoil flaw, none, fun _ => ?_, fun _ _ => rfl⟩
      simp [OpenObject.spoil]
    | ok k => exact ⟨o, some k, nofun, fun _ _ => rfl⟩
  | _ => simp [Token.symbol?] at h

/-- The first token of a value does not close an array, so a value may be its first item. -/
theorem feed_item {ts : List Token} {d : Document}
    (h : ∀ around, feed (.more (.value around)) ts = some (put d around)) (first : Bool)
    (items : List Document) (around : List Frame) :
    feed (.more (.item first items around)) ts = some (.more (.afterItem (d :: items) around)) := by
  cases ts with
  | nil =>
    have hnone := h []
    cases hnone
  | cons t ts =>
    have hvalue := h (.array items :: around)
    rw [feed_more_cons] at hvalue ⊢
    cases t with
    | closeBracket => cases ts <;> cases hvalue
    | _ => exact hvalue

/-! ### Matching -/

/-- The tokens are of the given kinds. -/
def Match (ts : List Token) (symbols : List Symbol) : Prop :=
  ts.map Token.symbol? = symbols.map some

theorem match_cons_iff {ts : List Token} {s : Symbol} {symbols : List Symbol} :
    Match ts (s :: symbols) ↔
      ∃ t rest, ts = t :: rest ∧ t.symbol? = some s ∧ Match rest symbols := by
  rw [Match, List.map_cons, List.map_eq_cons_iff]
  rfl

theorem match_append_iff {ts : List Token} {symbols symbols' : List Symbol} :
    Match ts (symbols ++ symbols') ↔
      ∃ front rest, ts = front ++ rest ∧ Match front symbols ∧ Match rest symbols' := by
  rw [Match, List.map_append, List.map_eq_append_iff]
  rfl

theorem match_nil_iff {ts : List Token} : Match ts [] ↔ ts = [] := by
  rw [Match, List.map_nil, List.map_eq_nil_iff]

theorem match_mark_iff {ts : List Token} {t : Token} {c : Char} {symbols : List Symbol}
    (ht : t.symbol? = some (.mark c)) :
    Match ts (.mark c :: symbols) ↔ ∃ rest, ts = t :: rest ∧ Match rest symbols := by
  rw [match_cons_iff]
  constructor
  · rintro ⟨u, rest, rfl, hu, hrest⟩
    exact ⟨rest, by rw [eq_of_symbol?_mark hu ht], hrest⟩
  · rintro ⟨rest, rfl, hrest⟩
    exact ⟨t, rest, rfl, ht, hrest⟩

theorem match_singleton_iff {ts : List Token} {s : Symbol} :
    Match ts [s] ↔ ∃ t, ts = [t] ∧ t.symbol? = some s := by
  rw [Match, List.map_singleton, List.map_eq_singleton_iff]

/-- What stands in brackets. -/
theorem match_enclosed {ts : List Token} {c c' : Char} {inside : List Symbol} (t t' : Token)
    (ht : t.symbol? = some (.mark c)) (ht' : t'.symbol? = some (.mark c'))
    (hts : Match ts (.mark c :: (inside ++ [.mark c']))) :
    ∃ us, ts = t :: (us ++ [t']) ∧ Match us inside := by
  obtain ⟨rest, rfl, hrest⟩ := (match_mark_iff ht).1 hts
  obtain ⟨us, last, rfl, hus, hlast⟩ := match_append_iff.1 hrest
  obtain ⟨u, rfl, hu⟩ := match_singleton_iff.1 hlast
  exact ⟨us, by rw [eq_of_symbol?_mark hu ht'], hus⟩

mutual

/-- **A value is read to its end**, and then it is put into what is around it. -/
theorem feed_value : ∀ {symbols : List Symbol}, IsValue symbols → ∀ {ts : List Token},
    Match ts symbols → ∃ d, ∀ around, feed (.more (.value around)) ts = some (put d around)
  | _, .scalar, ts, hts => by
    obtain ⟨t, rfl, ht⟩ := match_singleton_iff.1 hts
    obtain ⟨d, -, hd⟩ := exists_put_of_leaf (.inl ht)
    refine ⟨d, fun around => ?_⟩
    rw [feed_more_cons, feed_nil, step, hd]
  | _, .string, ts, hts => by
    obtain ⟨t, rfl, ht⟩ := match_singleton_iff.1 hts
    obtain ⟨d, -, hd⟩ := exists_put_of_leaf (.inr ht)
    refine ⟨d, fun around => ?_⟩
    rw [feed_more_cons, feed_nil, step, hd]
  | _, .emptyArray, ts, hts => by
    have henclosed : Match ts (.mark '[' :: ([] ++ [.mark ']'])) := hts
    obtain ⟨us, rfl, hus⟩ := match_enclosed .openBracket .closeBracket rfl rfl henclosed
    obtain rfl := match_nil_iff.1 hus
    exact ⟨.array [] .closed, fun around => feed_nil _⟩
  | _, .array h, ts, hts => by
    obtain ⟨us, rfl, hus⟩ := match_enclosed .openBracket .closeBracket rfl rfl hts
    exact feed_items h hus true []
  | _, .emptyObject, ts, hts => by
    have henclosed : Match ts (.mark '\x7b' :: ([] ++ [.mark '\x7d'])) := hts
    obtain ⟨us, rfl, hus⟩ := match_enclosed .openBrace .closeBrace rfl rfl henclosed
    obtain rfl := match_nil_iff.1 hus
    exact ⟨.object [] .closed, fun around => feed_nil _⟩
  | _, .object h, ts, hts => by
    obtain ⟨us, rfl, hus⟩ := match_enclosed .openBrace .closeBrace rfl rfl hts
    exact feed_members h hus true .empty

theorem feed_items : ∀ {symbols : List Symbol}, IsItems symbols → ∀ {ts : List Token},
    Match ts symbols → ∀ (first : Bool) (items : List Document), ∃ d, ∀ around,
      feed (.more (.item first items around)) (ts ++ [.closeBracket]) = some (put d around)
  | _, .one h, ts, hts, first, items => by
    obtain ⟨d, hd⟩ := feed_value h hts
    refine ⟨.array (d :: items).reverse .closed, fun around => ?_⟩
    rw [feed_append, feed_item hd]
    exact feed_nil _
  | _, .more h hitems, ts, hts, first, items => by
    obtain ⟨front, rest, rfl, hfront, hrest⟩ := match_append_iff.1 hts
    obtain ⟨us, rfl, hus⟩ := (match_mark_iff (t := .comma) rfl).1 hrest
    obtain ⟨d, hd⟩ := feed_value h hfront
    obtain ⟨d', hd'⟩ := feed_items hitems hus false (d :: items)
    refine ⟨d', fun around => ?_⟩
    rw [List.append_assoc, feed_append, feed_item hd]
    exact hd' around

theorem feed_members : ∀ {symbols : List Symbol}, IsMembers symbols → ∀ {ts : List Token},
    Match ts symbols → ∀ (first : Bool) (o : OpenObject), ∃ d, ∀ around,
      feed (.more (.key first o around)) (ts ++ [.closeBrace]) = some (put d around)
  | _, .one h, ts, hts, first, o => by
    obtain ⟨t, rest, rfl, ht, hrest⟩ := match_cons_iff.1 hts
    obtain ⟨us, rfl, hus⟩ := (match_mark_iff (t := .colon) rfl).1 hrest
    obtain ⟨d, hd⟩ := feed_value h hus
    obtain ⟨o', key, -, hkey⟩ := exists_key ht o
    refine ⟨(o'.add key d).close .closed none, fun around => ?_⟩
    rw [List.cons_append, feed_more_cons, hkey, List.cons_append, feed_more_cons, step, feed_append,
      hd]
    exact feed_nil _
  | _, .more h hmembers, ts, hts, first, o => by
    obtain ⟨t, rest, rfl, ht, hrest⟩ := match_cons_iff.1 hts
    obtain ⟨us, rfl, hus⟩ := (match_mark_iff (t := .colon) rfl).1 hrest
    obtain ⟨front, last, rfl, hfront, hlast⟩ := match_append_iff.1 hus
    obtain ⟨members, rfl, hms⟩ := (match_mark_iff (t := .comma) rfl).1 hlast
    obtain ⟨d, hd⟩ := feed_value h hfront
    obtain ⟨o', key, -, hkey⟩ := exists_key ht o
    obtain ⟨d', hd'⟩ := feed_members hmembers hms false (o'.add key d)
    refine ⟨d', fun around => ?_⟩
    rw [List.cons_append, feed_more_cons, hkey, List.cons_append, feed_more_cons, step,
      List.append_assoc, feed_append, hd]
    exact hd' around

end

/-- A complete value cannot be part of a longer one. -/
theorem eq_nil_of_feed_done {s : State} {ts rest : List Token} {d d' : Document}
    (h : feed (.more s) ts = some (.done d)) (h' : feed (.more s) (ts ++ rest) = some (.done d')) :
    rest = [] := by
  rw [feed_append, h] at h'
  cases rest with
  | nil => rfl
  | cons t rest => cases h'

end Reader

end AccessPolicy
