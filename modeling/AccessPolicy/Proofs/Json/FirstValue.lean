import AccessPolicy.Proofs.Json.Lexing
import AccessPolicy.Proofs.Json.Reading

/-!
# The first value of a text

Reading stops at the first token that fits nowhere. The document then shows a flaw, and so does
every container around the place where reading stopped, since a flaw is met by passing over any of
them. So a document without flaws comes from tokens that begin with a value.

The converse is in `Reader.feed_value`. Together with the lexemes of a text this says what a
document without flaws tells about its text: a value stands at the start of the text, nothing
behind it has been looked at, and the text is a value as a whole only if blanks are all that
follows.

## Main definitions

* `Reader.Sound` — the invariant of the containers around a place: a key that cannot be read has
  spoiled its object.
* `Reader.Begins` — tokens that begin with symbols of some form.
* `Grammar.IsClosedText` — a value that shows its own end.

## Main statements

* `Reader.passing_interrupt` — a flaw is met in every container around it.
* `Reader.value_or_flaw` — tokens begin with a value, or a flaw is met.
* `Grammar.isText_iff` — a text is a value exactly if its tokens form one.
* `Grammar.IsClosedText.exists_ofTokens`, `Grammar.IsClosedText.isText_append_iff` — what stands
  behind a value is never looked at, and in a value it is blank.
* `Document.exists_isClosedText` — a container without flaws stands at the start of its text.
-/
namespace AccessPolicy

open Grammar

/-! ## Flaws -/

namespace Document

theorem passingItems_eq_none_iff {ds : List Document} :
    passingItems ds = none ↔ ∀ d ∈ ds, d.passing = none := by
  induction ds with
  | nil => simp [passingItems]
  | cons d rest ih => simp [passingItems, ih]

theorem passingMembers_eq_none_iff {ms : List (String × Document)} :
    passingMembers ms = none ↔ ∀ m ∈ ms, m.2.passing = none := by
  induction ms with
  | nil => simp [passingMembers]
  | cons m rest ih => simp [passingMembers, ih]

/-- A document cannot be passed over if one of its parts or its end cannot. -/
theorem passing_array_eq_none_iff {ds : List Document} {ending : ArrayEnding} :
    (array ds ending).passing = none ↔ (∀ d ∈ ds, d.passing = none) ∧ ending.passing = none := by
  rw [passing, Option.or_eq_none_iff, passingItems_eq_none_iff]

theorem passing_object_eq_none_iff {ms : List (String × Document)} {ending : ObjectEnding} :
    (object ms ending).passing = none ↔
      (∀ m ∈ ms, m.2.passing = none) ∧ ending.passing = none := by
  rw [passing, Option.or_eq_none_iff, passingMembers_eq_none_iff]

end Document

namespace Reader

/-- A key that cannot be read has spoiled its object. -/
def Frame.IsSound : Frame → Prop
  | .array _ => True
  | .object o key => key = none → o.spoiled ≠ none

/-- Every container around a place is sound. -/
def Sound (around : List Frame) : Prop := ∀ frame ∈ around, frame.IsSound

theorem passing_close {o : OpenObject} {ending : ObjectEnding} (h : ending.passing ≠ none)
    (flaw : Flaw) : (o.close ending (some flaw)).passing ≠ none := by
  rw [OpenObject.close, ne_eq, Document.passing_object_eq_none_iff]
  rintro ⟨-, hending⟩
  cases hspoiled : o.spoiled with
  | none => exact h (by simpa [hspoiled] using hending)
  | some reading => simp [hspoiled, ObjectEnding.passing] at hending

/-- A flaw in the last member is met, unless an earlier key has spoiled the object; then it is met
there. -/
theorem passing_close_add {o : OpenObject} {key : Option String} {d : Document}
    (hsound : key = none → o.spoiled ≠ none) (hd : d.passing ≠ none) (flaw : Flaw) :
    ((o.add key d).close .interrupted (some flaw)).passing ≠ none := by
  rw [OpenObject.close, ne_eq, Document.passing_object_eq_none_iff]
  rintro ⟨hmembers, hending⟩
  cases hspoiled : o.spoiled with
  | some reading => simp [OpenObject.add, hspoiled, ObjectEnding.passing] at hending
  | none =>
    cases key with
    | none => exact hsound rfl hspoiled
    | some k => exact hd (hmembers (k, d) (by simp [OpenObject.add, hspoiled]))

/-- A flaw is met in every container around it. -/
theorem passing_interrupt {d : Document} (hd : d.passing ≠ none) {around : List Frame}
    (haround : Sound around) (flaw : Flaw) : (interrupt d flaw around).passing ≠ none := by
  induction around generalizing d with
  | nil => exact hd
  | cons frame around ih =>
    obtain ⟨hframe, hrest⟩ := List.forall_mem_cons.1 haround
    cases frame with
    | array items =>
      refine ih ?_ hrest
      rw [ne_eq, Document.passing_array_eq_none_iff]
      rintro ⟨hitems, -⟩
      exact hd (hitems d (by simp))
    | object o key => exact ih (passing_close_add hframe hd flaw) hrest

/-- Reading ends for a flaw that is met by passing over. -/
def Fails (o : Outcome) : Prop := ∃ d, o = .stopped d ∧ d.passing ≠ none

theorem fails_stop {d : Document} (hd : d.passing ≠ none) {around : List Frame}
    (haround : Sound around) (flaw : Flaw) : Fails (stop d flaw around) :=
  ⟨_, rfl, passing_interrupt hd haround flaw⟩

theorem passing_run_of_fails {s : State} {ts : List Token} (h : Fails (step s ts.head?)) :
    (run s ts).passing ≠ none := by
  obtain ⟨d, hd, hpassing⟩ := h
  cases ts with
  | nil =>
    rw [run]
    rw [List.head?_nil] at hd
    rw [hd]
    exact hpassing
  | cons t ts =>
    rw [run_cons]
    rw [List.head?_cons] at hd
    rw [hd]
    exact hpassing

theorem fails_stopArray {ending : ArrayEnding} (hending : ending.passing ≠ none)
    (items : List Document) (flaw : Flaw) {around : List Frame} (haround : Sound around) :
    Fails (stopArray items ending flaw around) := by
  refine fails_stop ?_ haround flaw
  rw [ne_eq, Document.passing_array_eq_none_iff]
  exact fun h => hending h.2

theorem fails_stopObject (o : OpenObject) (reading passing : Flaw) {around : List Frame}
    (haround : Sound around) : Fails (stopObject o reading passing around) :=
  fails_stop (passing_close (by simp [ObjectEnding.passing]) passing) haround passing

section
variable {around : List Frame} (haround : Sound around) (ts : List Token)
include haround

theorem value_cases :
    (∃ t rest, ts = t :: rest ∧ (t.symbol? = some .scalar ∨ t.symbol? = some .string)) ∨
      (∃ rest, ts = .openBracket :: rest) ∨ (∃ rest, ts = .openBrace :: rest) ∨
        Fails (step (.value around) ts.head?) := by
  have hstop : ∀ reading passing flaw,
      Fails (stop (.unreadable reading (some passing)) flaw around) :=
    fun reading passing flaw => fails_stop (by simp [Document.passing]) haround flaw
  cases ts with
  | nil => exact .inr (.inr (.inr (hstop _ _ _)))
  | cons t rest =>
    cases t with
    | openBracket => exact .inr (.inl ⟨rest, rfl⟩)
    | openBrace => exact .inr (.inr (.inl ⟨rest, rfl⟩))
    | null => exact .inl ⟨_, rest, rfl, .inl rfl⟩
    | bool b => exact .inl ⟨_, rest, rfl, .inl rfl⟩
    | number n => exact .inl ⟨_, rest, rfl, .inl rfl⟩
    | string s => exact .inl ⟨_, rest, rfl, .inr rfl⟩
    | _ => exact .inr (.inr (.inr (hstop _ _ _)))

theorem afterItem_cases (items : List Document) :
    (∃ rest, ts = .comma :: rest) ∨ (∃ rest, ts = .closeBracket :: rest) ∨
      Fails (step (.afterItem items around) ts.head?) := by
  have hstop : ∀ flaw, Fails (stopArray items (.noSeparator flaw) flaw around) :=
    fun flaw => fails_stopArray (by simp [ArrayEnding.passing]) items flaw haround
  cases ts with
  | nil => exact .inr (.inr (hstop _))
  | cons t rest =>
    cases t with
    | comma => exact .inl ⟨rest, rfl⟩
    | closeBracket => exact .inr (.inl ⟨rest, rfl⟩)
    | _ => exact .inr (.inr (hstop _))

theorem item_cases (first : Bool) (items : List Document) :
    (first = true ∧ ∃ rest, ts = .closeBracket :: rest) ∨
      run (.item first items around) ts = run (.value (.array items :: around)) ts ∨
        Fails (step (.item first items around) ts.head?) := by
  cases ts with
  | nil =>
    refine .inr (.inr (fails_stopArray ?_ items _ haround))
    cases first <;> simp [ArrayEnding.passing]
  | cons t rest =>
    cases t with
    | closeBracket =>
      cases first with
      | true => exact .inl ⟨rfl, rest, rfl⟩
      | false => exact .inr (.inr (fails_stopArray (by simp [ArrayEnding.passing]) items _ haround))
    | _ => exact .inr (.inl rfl)

theorem key_cases (first : Bool) (o : OpenObject) :
    (first = true ∧ ∃ rest, ts = .closeBrace :: rest) ∨
      (∃ t rest, ts = t :: rest ∧ t.symbol? = some .string) ∨
        Fails (step (.key first o around) ts.head?) := by
  cases ts with
  | nil => exact .inr (.inr (fails_stopObject o _ _ haround))
  | cons t rest =>
    cases t with
    | closeBrace =>
      cases first with
      | true => exact .inl ⟨rfl, rest, rfl⟩
      | false => exact .inr (.inr (fails_stopObject o _ _ haround))
    | string s => exact .inr (.inl ⟨_, rest, rfl, rfl⟩)
    | _ => exact .inr (.inr (fails_stopObject o _ _ haround))

theorem colon_cases (o : OpenObject) (key : Option String) :
    (∃ rest, ts = .colon :: rest) ∨ Fails (step (.colon o key around) ts.head?) := by
  have hstop : ∀ k flaw, Fails (stop (o.close (.noColon k flaw) (some flaw)) flaw around) :=
    fun k flaw => fails_stop (passing_close (by simp [ObjectEnding.passing]) flaw) haround flaw
  cases ts with
  | nil => exact .inr (hstop _ _)
  | cons t rest =>
    cases t with
    | colon => exact .inl ⟨rest, rfl⟩
    | _ => exact .inr (hstop _ _)

theorem afterMember_cases (o : OpenObject) :
    (∃ rest, ts = .comma :: rest) ∨ (∃ rest, ts = .closeBrace :: rest) ∨
      Fails (step (.afterMember o around) ts.head?) := by
  cases ts with
  | nil => exact .inr (.inr (fails_stopObject o _ _ haround))
  | cons t rest =>
    cases t with
    | comma => exact .inl ⟨rest, rfl⟩
    | closeBrace => exact .inr (.inl ⟨rest, rfl⟩)
    | _ => exact .inr (.inr (fails_stopObject o _ _ haround))

end

/-- The tokens begin with tokens of some kinds that have a property. -/
def Begins (P : List Symbol → Prop) (ts : List Token) : Prop :=
  ∃ front rest symbols, ts = front ++ rest ∧ Match front symbols ∧ P symbols

/-- What stands after the opening bracket of an array, or after the comma behind an item. -/
def ClosesArray (first : Bool) (symbols : List Symbol) : Prop :=
  (first = true ∧ symbols = [.mark ']']) ∨
    ∃ items, IsItems items ∧ symbols = items ++ [.mark ']']

/-- What stands after the opening brace of an object, or after the comma behind a member. -/
def ClosesObject (first : Bool) (symbols : List Symbol) : Prop :=
  (first = true ∧ symbols = [.mark '\x7d']) ∨
    ∃ members, IsMembers members ∧ symbols = members ++ [.mark '\x7d']

theorem ClosesArray.isValue {symbols : List Symbol} (h : ClosesArray true symbols) :
    IsValue (.mark '[' :: symbols) := by
  obtain ⟨-, rfl⟩ | ⟨items, hitems, rfl⟩ := h
  · exact .emptyArray
  · exact .array hitems

theorem ClosesObject.isValue {symbols : List Symbol} (h : ClosesObject true symbols) :
    IsValue (.mark '\x7b' :: symbols) := by
  obtain ⟨-, rfl⟩ | ⟨members, hmembers, rfl⟩ := h
  · exact .emptyObject
  · exact .object hmembers

/-- What stands behind an item or a member: the mark that closes the container, or a comma and what
may stand behind it. -/
def GoesOn (closing : Char) (Next : List Symbol → Prop) (symbols : List Symbol) : Prop :=
  symbols = [.mark closing] ∨ ∃ tail, Next tail ∧ symbols = .mark ',' :: tail

/-- What stands behind a key. -/
def FollowsKey (symbols : List Symbol) : Prop :=
  ∃ v tail, IsValue v ∧ GoesOn '\x7d' (ClosesObject false) tail ∧ symbols = .mark ':' :: (v ++ tail)

theorem ClosesArray.of_item {v tail : List Symbol} (hv : IsValue v)
    (htail : GoesOn ']' (ClosesArray false) tail) (first : Bool) :
    ClosesArray first (v ++ tail) := by
  obtain rfl | ⟨rest, ⟨hfirst, -⟩ | ⟨items, hitems, rfl⟩, rfl⟩ := htail
  · exact .inr ⟨v, .one hv, rfl⟩
  · cases hfirst
  · exact .inr ⟨_, .more hv hitems, by simp⟩

theorem ClosesObject.of_key {symbols : List Symbol} (h : FollowsKey symbols) (first : Bool) :
    ClosesObject first (.string :: symbols) := by
  obtain ⟨v, tail, hv, htail, rfl⟩ := h
  obtain rfl | ⟨rest, ⟨hfirst, -⟩ | ⟨members, hmembers, rfl⟩, rfl⟩ := htail
  · exact .inr ⟨_, .one hv, rfl⟩
  · cases hfirst
  · exact .inr ⟨_, .more hv hmembers, by simp⟩

theorem Begins.imp {P Q : List Symbol → Prop} {ts : List Token} (h : Begins P ts)
    (hPQ : ∀ symbols, P symbols → Q symbols) : Begins Q ts := by
  obtain ⟨front, rest, symbols, hts, hfront, hsymbols⟩ := h
  exact ⟨front, rest, symbols, hts, hfront, hPQ symbols hsymbols⟩

theorem Begins.cons {P Q : List Symbol → Prop} {ts : List Token} {t : Token} {s : Symbol}
    (h : Begins P ts) (ht : t.symbol? = some s) (hPQ : ∀ symbols, P symbols → Q (s :: symbols)) :
    Begins Q (t :: ts) := by
  obtain ⟨front, rest, symbols, rfl, hfront, hsymbols⟩ := h
  exact ⟨t :: front, rest, s :: symbols, rfl, match_cons_iff.2 ⟨t, front, rfl, ht, hfront⟩,
    hPQ symbols hsymbols⟩

theorem Begins.append {P Q : List Symbol → Prop} {ts front : List Token} {symbols : List Symbol}
    (h : Begins P ts) (hfront : Match front symbols)
    (hPQ : ∀ symbols', P symbols' → Q (symbols ++ symbols')) : Begins Q (front ++ ts) := by
  obtain ⟨front', rest, symbols', rfl, hfront', hsymbols'⟩ := h
  exact ⟨front ++ front', rest, symbols ++ symbols', (List.append_assoc _ _ _).symm,
    match_append_iff.2 ⟨front, front', rfl, hfront, hfront'⟩, hPQ symbols' hsymbols'⟩

theorem begins_singleton {t : Token} {s : Symbol} (ht : t.symbol? = some s) (ts : List Token) :
    Begins (· = [s]) (t :: ts) :=
  ⟨[t], ts, [s], rfl, match_singleton_iff.2 ⟨t, rfl, ht⟩, rfl⟩

theorem exists_run_value {symbols : List Symbol} {front : List Token} (h : IsValue symbols)
    (hfront : Match front symbols) : ∃ d, ∀ around rest,
      run (.value around) (front ++ rest) = settle (put d around) rest := by
  obtain ⟨d, hd⟩ := feed_value h hfront
  exact ⟨d, fun around rest => settle_append (hd around) rest⟩

/-! One statement for each state. Every step takes a token, except that an item is a value first,
which begins with the same token; so the states in which something may be missing weigh one more. -/

mutual

/-- **Tokens begin with a value**, or a flaw is met. -/
theorem value_or_flaw (ts : List Token) {around : List Frame} (haround : Sound around) :
    Begins IsValue ts ∨ (run (.value around) ts).passing ≠ none := by
  obtain ⟨t, rest, hts, ht⟩ | ⟨rest, hts⟩ | ⟨rest, hts⟩ | hfails := value_cases haround ts
  · rw [hts]
    obtain ht | ht := ht
    · exact .inl ((begins_singleton ht rest).imp fun _ h => h ▸ .scalar)
    · exact .inl ((begins_singleton ht rest).imp fun _ h => h ▸ .string)
  · have hlength : ts.length = rest.length + 1 := by simp [hts]
    rw [hts]
    exact (item_or_flaw rest haround true []).imp_left fun hbegins =>
      hbegins.cons rfl fun _ h => h.isValue
  · have hlength : ts.length = rest.length + 1 := by simp [hts]
    rw [hts]
    exact (key_or_flaw rest haround true .empty).imp_left fun hbegins =>
      hbegins.cons rfl fun _ h => h.isValue
  · exact .inr (passing_run_of_fails hfails)
termination_by 2 * ts.length

theorem item_or_flaw (ts : List Token) {around : List Frame} (haround : Sound around)
    (first : Bool) (items : List Document) :
    Begins (ClosesArray first) ts ∨ (run (.item first items around) ts).passing ≠ none := by
  obtain ⟨hfirst, rest, hts⟩ | hrun | hfails := item_cases haround ts first items
  · rw [hts]
    exact .inl ((begins_singleton rfl rest).imp fun _ h => .inl ⟨hfirst, h⟩)
  · rw [hrun]
    have hsound : Sound (.array items :: around) := List.forall_mem_cons.2 ⟨trivial, haround⟩
    obtain ⟨front, rest, v, hts, hfront, hvalue⟩ | hflaw := value_or_flaw ts hsound
    · obtain ⟨d, hd⟩ := exists_run_value hvalue hfront
      have hlength : ts.length = front.length + rest.length := by simp [hts]
      rw [hts, hd]
      exact (afterItem_or_flaw rest haround (d :: items)).imp_left fun hbegins =>
        hbegins.append hfront fun _ htail => .of_item hvalue htail first
    · exact .inr hflaw
  · exact .inr (passing_run_of_fails hfails)
termination_by 2 * ts.length + 1

theorem afterItem_or_flaw (ts : List Token) {around : List Frame} (haround : Sound around)
    (items : List Document) : Begins (GoesOn ']' (ClosesArray false)) ts ∨
      (run (.afterItem items around) ts).passing ≠ none := by
  obtain ⟨rest, hts⟩ | ⟨rest, hts⟩ | hfails := afterItem_cases haround ts items
  · have hlength : ts.length = rest.length + 1 := by simp [hts]
    rw [hts]
    exact (item_or_flaw rest haround false items).imp_left fun hbegins =>
      hbegins.cons rfl fun tail htail => .inr ⟨tail, htail, rfl⟩
  · rw [hts]
    exact .inl ((begins_singleton rfl rest).imp fun _ h => .inl h)
  · exact .inr (passing_run_of_fails hfails)
termination_by 2 * ts.length

theorem key_or_flaw (ts : List Token) {around : List Frame} (haround : Sound around)
    (first : Bool) (o : OpenObject) :
    Begins (ClosesObject first) ts ∨ (run (.key first o around) ts).passing ≠ none := by
  obtain ⟨hfirst, rest, hts⟩ | ⟨t, rest, hts, ht⟩ | hfails := key_cases haround ts first o
  · rw [hts]
    exact .inl ((begins_singleton rfl rest).imp fun _ h => .inl ⟨hfirst, h⟩)
  · obtain ⟨o', key, hspoiled, hkey⟩ := exists_key ht o
    have hlength : ts.length = rest.length + 1 := by simp [hts]
    have hsound : Sound (.object o' key :: around) := List.forall_mem_cons.2 ⟨hspoiled, haround⟩
    rw [hts, run_cons, hkey]
    exact (colon_or_flaw rest haround hsound).imp_left fun hbegins =>
      hbegins.cons ht fun _ h => .of_key h first
  · exact .inr (passing_run_of_fails hfails)
termination_by 2 * ts.length + 1

theorem colon_or_flaw (ts : List Token) {around : List Frame} (haround : Sound around)
    {o : OpenObject} {key : Option String} (hsound : Sound (.object o key :: around)) :
    Begins FollowsKey ts ∨ (run (.colon o key around) ts).passing ≠ none := by
  obtain ⟨value, hts⟩ | hfails := colon_cases haround ts o key
  · rw [hts, run_cons]
    have hvaluelength : ts.length = value.length + 1 := by simp [hts]
    obtain ⟨front, rest, v, hvalue, hfront, hv⟩ | hflaw := value_or_flaw value hsound
    · obtain ⟨d, hd⟩ := exists_run_value hv hfront
      have hlength : value.length = front.length + rest.length := by simp [hvalue]
      have hrun : settle (step (.colon o key around) (some .colon)) value =
          run (.afterMember (o.add key d) around) rest := hvalue ▸ hd _ rest
      rw [hrun, hvalue]
      refine (afterMember_or_flaw rest haround (o.add key d)).imp_left fun hbegins => ?_
      have hmember : Begins (fun symbols => ∃ tail, GoesOn '\x7d' (ClosesObject false) tail ∧
          symbols = v ++ tail) (front ++ rest) :=
        hbegins.append hfront fun tail htail => ⟨tail, htail, rfl⟩
      refine hmember.cons rfl ?_
      rintro _ ⟨tail, htail, rfl⟩
      exact ⟨v, tail, hv, htail, rfl⟩
    · exact .inr hflaw
  · exact .inr (passing_run_of_fails hfails)
termination_by 2 * ts.length

theorem afterMember_or_flaw (ts : List Token) {around : List Frame} (haround : Sound around)
    (o : OpenObject) : Begins (GoesOn '\x7d' (ClosesObject false)) ts ∨
      (run (.afterMember o around) ts).passing ≠ none := by
  obtain ⟨rest, hts⟩ | ⟨rest, hts⟩ | hfails := afterMember_cases haround ts o
  · have hlength : ts.length = rest.length + 1 := by simp [hts]
    rw [hts]
    exact (key_or_flaw rest haround false o).imp_left fun hbegins =>
      hbegins.cons rfl fun tail htail => .inr ⟨tail, htail, rfl⟩
  · rw [hts]
    exact .inl ((begins_singleton rfl rest).imp fun _ h => .inl h)
  · exact .inr (passing_run_of_fails hfails)
termination_by 2 * ts.length

end

end Reader

/-! ## Texts -/

namespace Grammar

open Token (Parted)

theorem parted_append_mark {v w : List Symbol} {c : Char} (hv : Parted v) (hw : Parted w) :
    Parted (v ++ .mark c :: w) := by
  rw [Parted, List.isChain_append, List.isChain_cons]
  exact ⟨hv, ⟨nofun, hw⟩, by simp⟩

mutual

/-- In a value, something stands between two scalars. -/
theorem IsValue.parted : ∀ {symbols : List Symbol}, IsValue symbols → Parted symbols
  | _, .scalar => .singleton _
  | _, .string => .singleton _
  | _, .emptyArray => parted_append_mark (v := [.mark '[']) (.singleton _) .nil
  | _, .array h => parted_append_mark (v := []) .nil (parted_append_mark h.parted .nil)
  | _, .emptyObject => parted_append_mark (v := [.mark '\x7b']) (.singleton _) .nil
  | _, .object h => parted_append_mark (v := []) .nil (parted_append_mark h.parted .nil)

theorem IsItems.parted : ∀ {symbols : List Symbol}, IsItems symbols → Parted symbols
  | _, .one h => h.parted
  | _, .more h hitems => parted_append_mark h.parted hitems.parted

theorem IsMembers.parted : ∀ {symbols : List Symbol}, IsMembers symbols → Parted symbols
  | _, .one h => parted_append_mark (v := [.string]) (.singleton _) h.parted
  | _, .more h hmembers =>
    parted_append_mark (v := [.string]) (.singleton _) (parted_append_mark h.parted hmembers.parted)

end

/-- Only a scalar ends with a scalar. -/
theorem IsValue.getLast?_ne {symbols : List Symbol} (h : IsValue symbols)
    (hne : symbols ≠ [.scalar]) : symbols.getLast? ≠ some .scalar := by
  cases h with
  | scalar => exact absurd rfl hne
  | _ => simp [List.getLast?_cons]

end Grammar

namespace Grammar

open Token (isBlank)

theorem Spells.append_blanks {symbols : List Symbol} {text blanks : List Char}
    (h : Spells symbols text) (hblanks : ∀ c ∈ blanks, isBlank c = true) :
    Spells symbols (text ++ blanks) := by
  induction h with
  | blanks htext =>
    refine .blanks fun c hc => ?_
    obtain hc | hc := List.mem_append.1 hc
    · exact htext c hc
    · exact hblanks c hc
  | lexeme hfront hlexeme _ ih =>
    rw [List.append_assoc, List.append_assoc]
    exact .lexeme hfront hlexeme ih

/-- The text is a value that ends by itself, with blanks around it: a string, an array or an
object. -/
def IsClosedText (text : List Char) : Prop :=
  ∃ symbols, IsValue symbols ∧ symbols ≠ [.scalar] ∧ Spells symbols text

variable {symbols : List Symbol} {first rest : List Char}

theorem IsClosedText.isText (h : IsClosedText first) : IsText first := by
  obtain ⟨symbols, hvalue, -, hspells⟩ := h
  exact ⟨symbols, hvalue, hspells⟩

/-- The tokens of a value are of the kinds of its lexemes, and those of what follows come after
them. -/
theorem exists_ofText_append (hvalue : IsValue symbols) (hspells : Spells symbols first) :
    ∃ ts, Reader.Match ts symbols ∧ ∀ rest, (symbols ≠ [.scalar] ∨ rest = []) →
      Token.ofText (first ++ rest) = ts ++ Token.ofText rest := by
  obtain ⟨ts, hts, htokens⟩ := Token.ofText_of_spells hspells hvalue.parted
  refine ⟨ts, hts, ?_⟩
  rintro rest (hclosed | rfl)
  · exact htokens rest fun hlast => absurd hlast (hvalue.getLast?_ne hclosed)
  · exact htokens [] fun _ => nofun

/-- A text consists of lexemes of the kinds of its tokens. -/
theorem spells_of_match {text : List Char} (h : Reader.Match (Token.ofText text) symbols) :
    Spells symbols text := by
  obtain ⟨front, blanks, rfl, hfront, hrest⟩ := Token.exists_spells h (List.append_nil _).symm
  exact hfront.append_blanks (Token.ofText_eq_nil_iff.1 hrest)

/-- **A text is a value** exactly if its tokens form one. -/
theorem isText_iff {text : List Char} :
    IsText text ↔ ∃ symbols, IsValue symbols ∧ Reader.Match (Token.ofText text) symbols := by
  constructor
  · rintro ⟨symbols, hvalue, hspells⟩
    obtain ⟨ts, hts, htokens⟩ := exists_ofText_append hvalue hspells
    have hwhole := htokens [] (.inr rfl)
    rw [Token.ofText, List.append_nil, List.append_nil] at hwhole
    exact ⟨symbols, hvalue, hwhole ▸ hts⟩
  · rintro ⟨symbols, hvalue, hmatch⟩
    exact ⟨symbols, hvalue, spells_of_match hmatch⟩

/-- **What follows the first value is never looked at.** -/
theorem IsClosedText.exists_ofTokens (h : IsClosedText first) :
    ∃ d, ∀ more, Document.ofTokens (Token.ofText (first ++ more)) = d := by
  obtain ⟨symbols, hvalue, hclosed, hspells⟩ := h
  obtain ⟨ts, hts, htokens⟩ := exists_ofText_append hvalue hspells
  obtain ⟨d, hd⟩ := Reader.feed_value hvalue hts
  refine ⟨d, fun more => ?_⟩
  rw [htokens more (.inl hclosed)]
  exact Reader.settle_append (hd []) _

/-- **Only blanks can follow a value** in a text that is a value as a whole. -/
theorem IsClosedText.isText_append_iff (h : IsClosedText first) :
    IsText (first ++ rest) ↔ ∀ c ∈ rest, isBlank c = true := by
  obtain ⟨symbols, hvalue, hclosed, hspells⟩ := h
  constructor
  · intro hwhole
    obtain ⟨symbols', hvalue', hmatch'⟩ := isText_iff.1 hwhole
    obtain ⟨ts, hts, htokens⟩ := exists_ofText_append hvalue hspells
    rw [htokens rest (.inl hclosed)] at hmatch'
    obtain ⟨d, hd⟩ := Reader.feed_value hvalue hts
    obtain ⟨d', hd'⟩ := Reader.feed_value hvalue' hmatch'
    exact Token.ofText_eq_nil_iff.1 (Reader.eq_nil_of_feed_done (hd []) (hd' []))
  · intro hblanks
    exact ⟨symbols, hvalue, hspells.append_blanks hblanks⟩

end Grammar

namespace Document

variable {text : List Char}

/-- **A container without flaws** stands at the start of the text as a value. -/
theorem exists_isClosedText (hpassing : (ofTokens (Token.ofText text)).passing = none)
    (hcontainer : (ofTokens (Token.ofText text)).isContainer = true) :
    ∃ first rest, text = first ++ rest ∧ IsClosedText first := by
  have haround : Reader.Sound [] := nofun
  obtain ⟨front, after, symbols, htokens, hfront, hvalue⟩ | hflaw :=
    Reader.value_or_flaw (Token.ofText text) haround
  · obtain ⟨first, rest, rfl, hfirst, -⟩ := Token.exists_spells hfront htokens
    refine ⟨first, rest, rfl, symbols, hvalue, ?_, hfirst⟩
    rintro rfl
    obtain ⟨t, rfl, ht⟩ := Reader.match_singleton_iff.1 hfront
    obtain ⟨d, hleaf, hd⟩ := Reader.exists_put_of_leaf (.inl ht)
    have hdocument : ofTokens (Token.ofText (first ++ rest)) = d := by
      rw [htokens, ofTokens, List.singleton_append, Reader.run_cons, Reader.step, hd]
      rfl
    rw [hdocument, hleaf] at hcontainer
    cases hcontainer
  · exact absurd hpassing hflaw

end Document

end AccessPolicy
