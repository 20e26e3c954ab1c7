import AccessPolicy.Proofs.Predicate.Agreement
import AccessPolicy.Proofs.Text.Lower

/-!
# Searching for a text

A condition may ask that a field contains a text, whatever the case of letters. The text and the
value of the field are lower-cased and then compared, each for itself. So a text that stands in the
value, character for character, is found if it has the same lower-case form there as alone. The
capital sigma, which has a form of its own at the end of a word, is the only letter that may come
out differently, and only if the text leaves it open where the word begins or ends.

## Main definitions

* `Text.OccursFold` — a text occurs in another one, up to the case of ASCII letters.
* `Condition.FindsText` — conditions for a text accept a value, and so do their query predicates.

## Main statements

* `Text.containsFold_of_occursFold` — a text without an open sigma is found wherever it occurs.
* `Text.exists_containsFold_eq_false` — a text with an open sigma is missed somewhere.
* `Condition.findsText_iff_settled` — which texts are found wherever they occur.
-/
namespace AccessPolicy

namespace Text

variable {needle haystack : String}

/-! ## Occurrences -/

/-- A text stands in another one, up to the case of ASCII letters. -/
def OccursFold (needle haystack : String) : Prop :=
  ∃ part, part <:+: haystack.toList ∧ part.map Char.toLower = needle.toList.map Char.toLower

theorem occursIn_iff {part text : List Char} : occursIn part text = true ↔ part <:+: text := by
  induction text with
  | nil => simp [occursIn]
  | cons c rest ih =>
    rw [occursIn, Bool.or_eq_true, ih, List.isPrefixOf_iff_prefix, List.infix_cons_iff]

theorem containsFold_iff : containsFold haystack needle = true ↔
    lowerFrom [] needle.toList <:+: lowerFrom [] haystack.toList := by
  rw [containsFold, occursIn_iff, lower, lower, String.toList_ofList, String.toList_ofList]

/-- **A text without an open sigma** is found wherever it occurs. -/
theorem containsFold_of_occursFold (h : holdsOpenSigma [] needle.toList = false)
    (hoccurs : OccursFold needle haystack) : containsFold haystack needle = true := by
  obtain ⟨part, ⟨front, rest, hsplit⟩, hpart⟩ := hoccurs
  have hform : lowerWithin front.reverse part rest = lowerFrom [] needle.toList := by
    rw [lowerFrom_eq_lowerWithin]
    exact lowerWithin_eq front.reverse rest h rfl hpart
  rw [containsFold_iff, ← hsplit, List.append_assoc, lowerFrom_append, lowerFrom_append,
    List.append_nil, hform]
  exact ⟨_, _, List.append_assoc _ _ _⟩

/-! ## Texts that are missed -/

/-- There is a letter that is its own lower-case form and is not the given character. -/
theorem exists_letter (c : Option Char) : ∃ x, meetsCased [x] = true ∧
    (∀ before rest, lowerFrom before (x :: rest) = x :: lowerFrom (x :: before) rest) ∧
      c ≠ some x := by
  have hletters : ∀ x ∈ ['a', 'b'], meetsCased [x] = true ∧ x ≠ 'Σ' ∧ lowerChar x = [x] :=
    List.forall_mem_cons.2 ⟨by decide +kernel, List.forall_mem_singleton.2 (by decide +kernel)⟩
  have hlower : ∀ x ∈ ['a', 'b'], ∀ before rest,
      lowerFrom before (x :: rest) = x :: lowerFrom (x :: before) rest := by
    intro x hx before rest
    obtain ⟨-, hsigma, hsmall⟩ := hletters x hx
    simp [lowerFrom, hsigma, hsmall]
  by_cases hc : c = some 'a'
  · exact ⟨'b', (hletters 'b' (by simp)).1, hlower 'b' (by simp), by simp [hc]⟩
  · exact ⟨'a', (hletters 'a' (by simp)).1, hlower 'a' (by simp), hc⟩

/-- A list is no part of another one of the same length and one more item, if it is different from
that list and does not begin with the item. -/
theorem not_infix_cons {part text : List Char} {x : Char} (hlength : part.length = text.length)
    (hne : part ≠ text) (hhead : part.head? ≠ some x) : ¬ part <:+: x :: text := by
  rw [List.infix_cons_iff]
  rintro (hstart | hpart)
  · cases part with
    | nil => exact hne (List.length_eq_zero_iff.1 hlength.symm).symm
    | cons y part =>
      rw [List.cons_prefix_cons] at hstart
      simp [hstart.1] at hhead
  · exact hne (hpart.eq_of_length hlength)

/-- The same at the other end. -/
theorem not_infix_concat {part text : List Char} {x : Char} (hlength : part.length = text.length)
    (hne : part ≠ text) (hlast : part.getLast? ≠ some x) : ¬ part <:+: text ++ [x] := by
  rw [← List.reverse_infix, List.reverse_append]
  refine not_infix_cons (by simpa using hlength) (by simpa using hne) ?_
  rwa [List.head?_reverse]

/-- **A text with an open sigma** is missed somewhere: in the text that has one more letter. -/
theorem exists_containsFold_eq_false (h : holdsOpenSigma [] needle.toList = true) :
    ∃ haystack : String, needle.toList <:+: haystack.toList ∧
      containsFold haystack needle = false := by
  have hmissed : ∀ text : List Char,
      ¬ lowerWithin [] needle.toList [] <:+: lowerFrom [] text →
      containsFold (String.ofList text) needle = false := by
    intro text hnot
    rw [← Bool.not_eq_true, containsFold_iff, String.toList_ofList, lowerFrom_eq_lowerWithin]
    exact hnot
  -- A letter with which the form neither begins nor ends cannot make up for the sigma.
  rcases lowerWithin_ne_of_holdsOpenSigma h with hbefore | hafter
  · obtain ⟨x, hx, hlower, hhead⟩ := exists_letter (lowerWithin [] needle.toList []).head?
    refine ⟨String.ofList (x :: needle.toList), ?_, hmissed _ ?_⟩
    · rw [String.toList_ofList]
      exact (List.suffix_cons x _).isInfix
    · rw [hlower, lowerFrom_eq_lowerWithin]
      exact not_infix_cons (length_lowerWithin _ _ _ _ _) (hbefore x hx).symm hhead
  · obtain ⟨x, hx, hlower, hlast⟩ := exists_letter (lowerWithin [] needle.toList []).getLast?
    refine ⟨String.ofList (needle.toList ++ [x]), ?_, hmissed _ ?_⟩
    · rw [String.toList_ofList]
      exact (List.prefix_append _ _).isInfix
    · rw [lowerFrom_append, hlower, lowerFrom]
      exact not_infix_concat (length_lowerWithin _ _ _ _ _) (hafter x hx).symm hlast

/-- A text without a capital sigma has no open one. -/
theorem holdsOpenSigma_of_notMem {text : List Char} (h : 'Σ' ∉ text) :
    holdsOpenSigma [] text = false := by
  rw [← Bool.not_eq_true]
  intro hopen
  obtain ⟨xs, ys, rfl, -⟩ := exists_isOpenSigma hopen
  exact h (by simp)

end Text

/-! ## Conditions -/

namespace Condition

/-- Every condition that asks for a text accepts a value, and its query predicate selects every
record with that value, whatever field the condition is on. -/
structure FindsText (needle haystack : String) : Prop where
  /-- The condition accepts the value. -/
  accepts : ∀ (operand : Operand) (context : Json),
    operand.resolve context = some (.string needle) →
      Condition.accepts ⟨.known .contains, operand⟩ context (some (.string haystack)) = true
  /-- The predicate of the condition selects the record. -/
  selects : ∀ (operand : Operand) (context : Json) (field : String) (record : Record),
    operand.resolve context = some (.string needle) → isReserved field = false →
      record.get? field = some (.string haystack) →
        (Predicate.ofConditions (some (Dict.empty.insert field ⟨.known .contains, operand⟩))
          context).selects record = true

variable {needle haystack : String}

theorem accepts_contains {operand : Operand} {context : Json}
    (h : operand.resolve context = some (.string needle)) :
    accepts ⟨.known .contains, operand⟩ context (some (.string haystack)) =
      Text.containsFold haystack needle := by
  simp only [accepts_eq_any, h, Option.any_some]
  rfl

/-- A text is found if it occurs in the value after both are lower-cased. -/
theorem findsText_iff : FindsText needle haystack ↔ Text.containsFold haystack needle = true := by
  constructor
  · intro h
    have haccepts := h.accepts (.literal (.string needle)) .null rfl
    rwa [accepts_contains rfl] at haccepts
  · intro h
    constructor
    · intro operand context hresolve
      rw [accepts_contains hresolve, h]
    · intro operand context field record hresolve hreserved hvalue
      rw [Predicate.selects_ofConditions, Conditions.accept, Option.all_some, Dict.all_iff]
      intro field' c hc
      rw [Dict.get?_insert, Dict.get?_empty] at hc
      by_cases hfield : field' = field
      · rw [if_pos hfield, Option.some.injEq] at hc
        rw [hfield, ← hc, hreserved, hvalue, accepts_contains hresolve, h]
        rfl
      · simp [hfield] at hc

/-- **Which texts are found wherever they occur**: those without an open sigma, so in particular
all texts without a capital sigma. They are found in whatever case the ASCII letters are; all other
texts are missed somewhere, even if they occur character for character. -/
theorem findsText_iff_settled (needle : String) :
    ((∀ haystack, Text.OccursFold needle haystack → FindsText needle haystack) ↔
      Text.holdsOpenSigma [] needle.toList = false) ∧
    ((∀ haystack : String, needle.toList <:+: haystack.toList → FindsText needle haystack) ↔
      Text.holdsOpenSigma [] needle.toList = false) ∧
    ('Σ' ∉ needle.toList → Text.holdsOpenSigma [] needle.toList = false) := by
  have hfound : Text.holdsOpenSigma [] needle.toList = false →
      ∀ haystack, Text.OccursFold needle haystack → FindsText needle haystack := by
    intro hsettled haystack hoccurs
    exact findsText_iff.2 (Text.containsFold_of_occursFold hsettled hoccurs)
  have hmissed : (∀ haystack : String, needle.toList <:+: haystack.toList →
      FindsText needle haystack) → Text.holdsOpenSigma [] needle.toList = false := by
    intro hfinds
    by_contra hopen
    obtain ⟨haystack, hoccurs, hnot⟩ :=
      Text.exists_containsFold_eq_false (Bool.not_eq_false _ ▸ hopen)
    rw [findsText_iff.1 (hfinds haystack hoccurs)] at hnot
    cases hnot
  have hliteral : ∀ haystack : String, needle.toList <:+: haystack.toList →
      Text.OccursFold needle haystack := fun haystack h => ⟨_, h, rfl⟩
  refine ⟨⟨fun hfinds => hmissed fun haystack h => hfinds haystack (hliteral haystack h), hfound⟩,
    ⟨hmissed, fun hsettled haystack h => hfound hsettled haystack (hliteral haystack h)⟩,
    Text.holdsOpenSigma_of_notMem⟩

/-! ### Streets -/

/-- A house number behind a word settles that the word is over, so the street is found. -/
theorem findsText_houseNumber :
    'Σ' ∉ "Road B".toList ∧ Text.holdsOpenSigma [] "ΟΔΟΣ 5b".toList = false ∧
      Text.OccursFold "ΟΔΟΣ 5b" "ΠΑΝΩ ΟΔΟΣ 5B2" ∧ FindsText "ΟΔΟΣ 5b" "ΠΑΝΩ ΟΔΟΣ 5B2" ∧
      Text.holdsOpenSigma [] "Road B".toList = false := by
  have hlatin : 'Σ' ∉ "Road B".toList := by decide
  have hsettled : Text.holdsOpenSigma [] "ΟΔΟΣ 5b".toList = false := by decide +kernel
  have hoccurs : Text.OccursFold "ΟΔΟΣ 5b" "ΠΑΝΩ ΟΔΟΣ 5B2" :=
    ⟨"ΟΔΟΣ 5B".toList, ⟨"ΠΑΝΩ ".toList, "2".toList, by decide⟩, by decide⟩
  obtain ⟨hstreet, -, -⟩ := findsText_iff_settled "ΟΔΟΣ 5b"
  obtain ⟨-, -, hroad⟩ := findsText_iff_settled "Road B"
  exact ⟨hlatin, hsettled, hoccurs, hstreet.2 hsettled _ hoccurs, hroad hlatin⟩

/-- **A word that is missed in a longer one**: it occurs there character for character, but alone
it ends with the other sigma. -/
theorem misses_street :
    "ΟΔΟΣ".toList <:+: "ΟΔΟΣΗΜΑΝΣΗ".toList ∧
      accepts ⟨.known .contains, .literal (.string "ΟΔΟΣ")⟩ .null
        (some (.string "ΟΔΟΣΗΜΑΝΣΗ")) = false ∧
      (Predicate.ofConditions
        (some (Dict.empty.insert "title" ⟨.known .contains, .literal (.string "ΟΔΟΣ")⟩))
        .null).selects (Dict.empty.insert "title" (.string "ΟΔΟΣΗΜΑΝΣΗ")) = false := by
  refine ⟨⟨[], "ΗΜΑΝΣΗ".toList, by decide⟩, by decide +kernel, by decide +kernel⟩

end Condition

end AccessPolicy
