import AccessPolicy.Proofs.Json.Decoder
import AccessPolicy.Proofs.Json.Grammar
import Mathlib.Data.List.Chain
import Mathlib.Data.List.TakeWhile

/-!
# The tokens of a text are its lexemes

Dividing a text into tokens is deterministic: a token is taken from the front as far as it goes.
The grammar only says what a lexeme is. Here the two are brought together, one kind of lexeme after
the other and each in both directions: what is taken for a token is a lexeme, and a lexeme is taken
for a token with its symbol.

What follows a lexeme has no say in it, with one exception. A numeral is taken as far as its digits
go, so it must not be followed by more of them. In a value that never happens, since there a mark
stands between two scalars.

## Main definitions

* `Token.EndsNumeral` — a text that does not continue a numeral in front of it.
* `Token.Parted` — no two scalars stand next to each other.

## Main statements

* `Token.exists_isLexeme` — what is taken for a token is a lexeme.
* `Token.next_of_isLexeme` — a lexeme is taken for a token.
* `Token.exists_spells`, `Token.ofText_of_spells` — the same for texts.
-/
namespace AccessPolicy

namespace Token

open Grammar

/-! ## Strings -/

theorem unit?_isSome_iff {a b c d : Char} :
    (unit? a b c d).isSome = true ↔ ∀ x ∈ [a, b, c, d], (hexValue? x).isSome = true := by
  cases ha : hexValue? a <;> cases hb : hexValue? b <;> cases hc : hexValue? c <;>
    cases hd : hexValue? d <;> simp [unit?, ha, hb, hc, hd]

theorem escaped?_isSome_iff {c : Char} :
    (escaped? c).isSome = true ↔ c ∈ ['"', '\\', '/', 'b', 'f', 'n', 'r', 't'] := by
  simp only [escaped?, List.mem_cons, List.not_mem_nil, or_false]
  grind

theorem pieces_char {c : Char} (hc : c ∉ ['"', '\\'] ∧ ¬ c < ' ') (text : List Char) :
    pieces (c :: text) = (.char c :: (pieces text).1, (pieces text).2) := by
  obtain ⟨hmem, hcontrol⟩ := hc
  simp only [List.mem_cons, List.not_mem_nil, or_false, not_or] at hmem
  rw [pieces, if_neg hcontrol]
  all_goals simp [hmem]

theorem pieces_escape {e c : Char} (he : escaped? e = some c) (text : List Char) :
    pieces ('\\' :: e :: text) = (.char c :: (pieces text).1, (pieces text).2) := by
  have hu : e ≠ 'u' := by
    rintro rfl
    simp [escaped?] at he
  rw [pieces, he]
  all_goals simp [hu]

theorem pieces_unit {a b c d : Char} {n : Nat} (hn : unit? a b c d = some n) (text : List Char) :
    pieces ('\\' :: 'u' :: a :: b :: c :: d :: text) =
      (.unit n :: (pieces text).1, (pieces text).2) := by
  rw [pieces, hn]

/-- What is taken for a string comes to its closing quote. -/
theorem isStringRest_of_pieces {text rest : List Char} {ps : List Piece}
    (h : pieces text = (ps, .ok rest)) : ∃ inside, text = inside ++ rest ∧ IsStringRest inside := by
  fun_induction pieces text generalizing ps <;>
    simp only [Prod.mk.injEq, reduceCtorEq, and_false, Except.ok.injEq] at h
  -- the closing quote
  case case2 => exact ⟨['"'], by simp [h.2], .close⟩
  -- a code unit in four digits
  case case4 a b c d _ n hn ps' _ hp ih =>
    obtain ⟨rfl, rfl⟩ := h
    obtain ⟨inside, rfl, hinside⟩ := ih hp
    have hdigits : (unit? a b c d).isSome = true := by simp [hn]
    exact ⟨_, rfl, .unit (unit?_isSome_iff.1 hdigits) hinside⟩
  -- a letter after a backslash
  case case7 e _ _ _ c hc ps' _ hp ih =>
    obtain ⟨rfl, rfl⟩ := h
    obtain ⟨inside, rfl, hinside⟩ := ih hp
    have hescape : (escaped? e).isSome = true := by simp [hc]
    exact ⟨_, rfl, .escape (escaped?_isSome_iff.1 hescape) hinside⟩
  -- any other character
  case case10 c tail hquote hlast _ _ hescape hcontrol ps' _ hp ih =>
    obtain ⟨rfl, rfl⟩ := h
    obtain ⟨inside, rfl, hinside⟩ := ih hp
    have hbackslash : c ≠ '\\' := by
      intro hc
      cases hrest : inside ++ rest with
      | nil => exact hlast hc hrest
      | cons e tail => exact hescape e tail hc hrest
    refine ⟨_, rfl, .char ⟨?_, hcontrol⟩ hinside⟩
    simp only [List.mem_cons, List.not_mem_nil, or_false, not_or]
    exact ⟨hquote, hbackslash⟩

/-- A string is taken up to its closing quote, whatever follows. -/
theorem pieces_of_isStringRest {inside : List Char} (h : IsStringRest inside) :
    ∃ ps, ∀ rest, pieces (inside ++ rest) = (ps, .ok rest) := by
  induction h with
  | close => exact ⟨[], fun rest => by rw [List.singleton_append, pieces]⟩
  | @char c text hc _ ih =>
    obtain ⟨ps, hps⟩ := ih
    refine ⟨.char c :: ps, fun rest => ?_⟩
    rw [List.cons_append, pieces_char hc, hps]
  | @escape e text he _ ih =>
    obtain ⟨ps, hps⟩ := ih
    obtain ⟨c, hc⟩ := Option.isSome_iff_exists.1 (escaped?_isSome_iff.2 he)
    refine ⟨.char c :: ps, fun rest => ?_⟩
    rw [List.cons_append, List.cons_append, pieces_escape hc, hps]
  | unit hdigits _ ih =>
    obtain ⟨ps, hps⟩ := ih
    obtain ⟨n, hn⟩ := Option.isSome_iff_exists.1 (unit?_isSome_iff.2 hdigits)
    refine ⟨.unit n :: ps, fun rest => ?_⟩
    simp only [List.cons_append, pieces_unit hn, hps]

theorem string?_eq_some_iff {text rest : List Char} {t : Token} :
    string? text = (t, some rest) ↔
      ∃ ps, pieces text = (ps, .ok rest) ∧ t = .string (String.ofList <$> denote none ps) := by
  rw [string?]
  split
  · rename_i ps _ hp
    simp only [Prod.mk.injEq, Option.some.injEq, hp, Except.ok.injEq]
    constructor
    · rintro ⟨rfl, rfl⟩
      exact ⟨ps, ⟨rfl, rfl⟩, rfl⟩
    · rintro ⟨_, ⟨rfl, rfl⟩, rfl⟩
      exact ⟨rfl, rfl⟩
  · rename_i hp
    split <;> simp [hp]

/-! ## Numbers -/

/-- The text does not begin with a digit. -/
def EndsDigits (text : List Char) : Prop := ∀ c ∈ text.head?, isDigit c = false

/-- The text does not begin with a character that a numeral in front of it could go on with. -/
def EndsNumeral (text : List Char) : Prop :=
  ∀ c ∈ text.head?, isDigit c = false ∧ c ∉ ['.', 'e', 'E']

theorem EndsNumeral.endsDigits {text : List Char} (h : EndsNumeral text) : EndsDigits text :=
  fun c hc => (h c hc).1

theorem exists_digits {text : List Char} (h : ¬ (text.takeWhile isDigit).isEmpty = true) :
    IsDigits (text.takeWhile isDigit) ∧
      text = text.takeWhile isDigit ++ text.dropWhile isDigit := by
  refine ⟨⟨by simpa using h, fun c hc => ?_⟩, List.takeWhile_append_dropWhile.symm⟩
  exact List.mem_takeWhile_imp hc

theorem takeWhile_digits {digits rest : List Char} (h : IsDigits digits) (hrest : EndsDigits rest) :
    (digits ++ rest).takeWhile isDigit = digits ∧ (digits ++ rest).dropWhile isDigit = rest := by
  rw [List.takeWhile_append_of_pos h.2, List.dropWhile_append_of_pos h.2]
  cases rest with
  | nil => simp
  | cons c tail =>
    have hc : isDigit c = false := hrest c rfl
    simp [hc]

theorem exists_isWhole {text digits rest : List Char}
    (h : wholeDigits text = .ok (digits, rest)) : text = digits ++ rest ∧ IsWhole digits := by
  rw [wholeDigits.eq_def] at h
  split at h
  · split at h
    · cases h
      exact ⟨rfl, .inl rfl⟩
    · cases h
  · split at h
    · cases h
    · rename_i hzero hsome
      cases h
      obtain ⟨hdigits, htext⟩ := exists_digits hsome
      refine ⟨htext, .inr ⟨hdigits, fun hhead => ?_⟩⟩
      obtain ⟨tail, htail⟩ := List.head?_eq_some_iff.1 hhead
      rw [htail] at htext
      exact hzero _ htext

theorem wholeDigits_of_isWhole {digits : List Char} (h : IsWhole digits) {rest : List Char}
    (hrest : EndsDigits rest) : wholeDigits (digits ++ rest) = .ok (digits, rest) := by
  rcases h with rfl | ⟨hdigits, hhead⟩
  · have hnone : rest.takeWhile isDigit = [] := by
      cases rest with
      | nil => rfl
      | cons c tail => simp [hrest c rfl]
    rw [List.singleton_append, wholeDigits, hnone]
    rfl
  · obtain ⟨htake, hdrop⟩ := takeWhile_digits hdigits hrest
    have hsome : digits.isEmpty = false := by simpa using hdigits.1
    rw [wholeDigits, htake, hdrop, hsome]
    · rfl
    · intro tail htail
      cases digits with
      | nil => exact hdigits.1 rfl
      | cons c _ => exact hhead (congrArg some (List.cons.inj htail).1)

theorem exists_isFraction {text rest : List Char} {digits : Option (List Char)}
    (h : fractionDigits text = .ok (digits, rest)) :
    ∃ fraction, text = fraction ++ rest ∧ IsFraction fraction := by
  rw [fractionDigits.eq_def] at h
  split at h
  · rename_i tail
    split at h
    · cases h
    · rename_i hsome
      cases h
      obtain ⟨hdigits, htext⟩ := exists_digits hsome
      exact ⟨'.' :: tail.takeWhile isDigit, congrArg _ htext, .inr ⟨_, hdigits, rfl⟩⟩
  · cases h
    exact ⟨[], rfl, .inl rfl⟩

theorem fractionDigits_point {digits rest : List Char} (h : IsDigits digits)
    (hrest : EndsDigits rest) :
    fractionDigits ('.' :: (digits ++ rest)) = .ok (some digits, rest) := by
  obtain ⟨htake, hdrop⟩ := takeWhile_digits h hrest
  have hsome : digits.isEmpty = false := by simpa using h.1
  rw [fractionDigits, htake, hdrop, hsome]
  rfl

theorem fractionDigits_eq_none {text : List Char} (h : '.' ∉ text.head?) :
    fractionDigits text = .ok (none, text) := by
  rw [fractionDigits]
  rintro tail rfl
  exact h rfl

theorem fractionDigits_of_isFraction {fraction : List Char} (h : IsFraction fraction) :
    ∃ digits, ∀ rest, EndsDigits rest → '.' ∉ rest.head? →
      fractionDigits (fraction ++ rest) = .ok (digits, rest) := by
  rcases h with rfl | ⟨digits, hdigits, rfl⟩
  · exact ⟨none, fun rest _ hpoint => fractionDigits_eq_none hpoint⟩
  · exact ⟨some digits, fun rest hrest _ => fractionDigits_point hdigits hrest⟩

theorem exists_sign (text : List Char) :
    ∃ sign ∈ [[], ['+'], ['-']], text = sign ++ (exponentSign text).2 := by
  rw [exponentSign.eq_def]
  split
  · exact ⟨['-'], by simp, rfl⟩
  · exact ⟨['+'], by simp, rfl⟩
  · exact ⟨[], by simp, rfl⟩

theorem exists_isExponent_cons {e : Char} (he : e ∈ ['e', 'E']) {text rest : List Char}
    {power : Option Int} (h : exponentAfter text = .ok (power, rest)) :
    ∃ part, e :: text = part ++ rest ∧ IsExponent part := by
  simp only [exponentAfter] at h
  split at h
  · cases h
  · rename_i hsome
    cases h
    obtain ⟨hdigits, htext⟩ := exists_digits hsome
    obtain ⟨sign, hsign, htail⟩ := exists_sign text
    refine ⟨e :: (sign ++ (exponentSign text).2.takeWhile isDigit), ?_,
      .inr ⟨e, he, sign, hsign, _, hdigits, rfl⟩⟩
    rw [List.cons_append, List.append_assoc, ← htext, ← htail]

theorem exists_isExponent {text rest : List Char} {power : Option Int}
    (h : exponent text = .ok (power, rest)) :
    ∃ part, text = part ++ rest ∧ IsExponent part := by
  rw [exponent.eq_def] at h
  split at h
  · exact exists_isExponent_cons (by simp) h
  · exact exists_isExponent_cons (by simp) h
  · cases h
    exact ⟨[], rfl, .inl rfl⟩

theorem exponentSign_append {sign digits rest : List Char} (hsign : sign ∈ [[], ['+'], ['-']])
    (hdigits : IsDigits digits) :
    exponentSign (sign ++ (digits ++ rest)) = (sign == ['-'], digits ++ rest) := by
  simp only [List.mem_cons, List.not_mem_nil, or_false] at hsign
  rcases hsign with rfl | rfl | rfl
  · obtain ⟨hsome, hdigit⟩ := hdigits
    cases digits with
    | nil => exact absurd rfl hsome
    | cons c tail =>
      have hc := hdigit c List.mem_cons_self
      rw [List.nil_append, List.cons_append, exponentSign]
      · rfl
      · rintro _ ⟨⟩
        cases hc
      · rintro _ ⟨⟩
        cases hc
  · rfl
  · rfl

theorem exponent_letter {e : Char} (he : e ∈ ['e', 'E']) {sign digits rest : List Char}
    (hsign : sign ∈ [[], ['+'], ['-']]) (hdigits : IsDigits digits) (hrest : EndsDigits rest) :
    exponent (e :: (sign ++ (digits ++ rest))) =
      .ok (some (if (sign == ['-']) = true then -(Nat.ofDigitChars 10 digits 0 : Int)
        else Nat.ofDigitChars 10 digits 0), rest) := by
  obtain ⟨htake, hdrop⟩ := takeWhile_digits hdigits hrest
  have hsome : digits.isEmpty = false := by simpa using hdigits.1
  have hafter : exponent (e :: (sign ++ (digits ++ rest))) =
      exponentAfter (sign ++ (digits ++ rest)) := by
    simp only [List.mem_cons, List.not_mem_nil, or_false] at he
    rcases he with rfl | rfl <;> rfl
  rw [hafter, exponentAfter, exponentSign_append hsign hdigits]
  simp only [htake, hdrop, hsome]
  rfl

theorem exponent_eq_none {text : List Char} (h : EndsNumeral text) :
    exponent text = .ok (none, text) := by
  rw [exponent]
  · rintro tail rfl
    exact absurd (h _ rfl).2 (by simp)
  · rintro tail rfl
    exact absurd (h _ rfl).2 (by simp)

theorem exponent_of_isExponent {part : List Char} (h : IsExponent part) :
    ∃ power, ∀ rest, EndsNumeral rest → exponent (part ++ rest) = .ok (power, rest) := by
  rcases h with rfl | ⟨e, he, sign, hsign, digits, hdigits, rfl⟩
  · exact ⟨none, fun rest hrest => exponent_eq_none hrest⟩
  · refine ⟨some (if (sign == ['-']) = true then -(Nat.ofDigitChars 10 digits 0 : Int)
      else Nat.ofDigitChars 10 digits 0), fun rest hrest => ?_⟩
    rw [List.cons_append, List.append_assoc]
    exact exponent_letter he hsign hdigits hrest.endsDigits

theorem endsDigits_fraction {fraction rest : List Char} (h : IsFraction fraction)
    (hrest : EndsDigits rest) : EndsDigits (fraction ++ rest) := by
  rcases h with rfl | ⟨digits, -, rfl⟩
  · exact hrest
  · rintro _ ⟨⟩
    rfl

theorem endsDigits_exponent {part rest : List Char} (h : IsExponent part)
    (hrest : EndsNumeral rest) : EndsDigits (part ++ rest) ∧ '.' ∉ (part ++ rest).head? := by
  rcases h with rfl | ⟨e, he, sign, -, digits, -, rfl⟩
  · exact ⟨hrest.endsDigits, fun hpoint => absurd (hrest _ hpoint).2 (by simp)⟩
  · simp only [List.mem_cons, List.not_mem_nil, or_false] at he
    rcases he with rfl | rfl
    · exact ⟨by rintro _ ⟨⟩; rfl, by simp⟩
    · exact ⟨by rintro _ ⟨⟩; rfl, by simp⟩

/-- What is taken for a number is a numeral. -/
theorem exists_isUnsigned {negative : Bool} {text rest : List Char} {n : Numeral}
    (h : numeral negative text = .ok (n, rest)) :
    ∃ unsigned, text = unsigned ++ rest ∧ IsUnsigned unsigned := by
  simp only [numeral, Decoder.bind_eq_ok, Decoder.pure_eq_ok, Prod.exists] at h
  obtain ⟨whole, text₁, hw, fraction, text₂, hf, power, text₃, hp, h⟩ := h
  cases h
  obtain ⟨rfl, hwhole⟩ := exists_isWhole hw
  obtain ⟨fraction, rfl, hfraction⟩ := exists_isFraction hf
  obtain ⟨part, rfl, hpart⟩ := exists_isExponent hp
  exact ⟨whole ++ fraction ++ part, by simp, whole, fraction, part, hwhole, hfraction, hpart, rfl⟩

/-- A numeral is taken as a number if the text does not go on with it. -/
theorem numeral_of_isUnsigned {unsigned : List Char} (h : IsUnsigned unsigned) (negative : Bool) :
    ∃ n, ∀ rest, EndsNumeral rest → numeral negative (unsigned ++ rest) = .ok (n, rest) := by
  obtain ⟨whole, fraction, part, hwhole, hfraction, hpart, rfl⟩ := h
  obtain ⟨digits, hdigits⟩ := fractionDigits_of_isFraction hfraction
  obtain ⟨power, hpower⟩ := exponent_of_isExponent hpart
  refine ⟨⟨negative, whole, digits, power⟩, fun rest hrest => ?_⟩
  obtain ⟨hexponent, hpoint⟩ := endsDigits_exponent hpart hrest
  have hw := wholeDigits_of_isWhole hwhole (endsDigits_fraction hfraction hexponent)
  simp only [numeral, List.append_assoc, hw, bind, Except.bind, hdigits _ hexponent hpoint,
    hpower rest hrest]
  rfl

/-- A numeral without its sign begins with a digit. -/
theorem exists_cons_of_isUnsigned {unsigned : List Char} (h : IsUnsigned unsigned) :
    ∃ c tail, unsigned = c :: tail ∧ isDigit c = true := by
  obtain ⟨whole, fraction, part, hwhole, -, -, rfl⟩ := h
  rcases hwhole with rfl | ⟨⟨hsome, hdigit⟩, -⟩
  · exact ⟨'0', _, rfl, rfl⟩
  · cases whole with
    | nil => exact absurd rfl hsome
    | cons c tail => exact ⟨c, _, rfl, hdigit c List.mem_cons_self⟩

/-! What does not come to its end is no lexeme, part by part. -/

theorem symbol?_of_wholeDigits {text : List Char} {t : Token} (h : wholeDigits text = .error t) :
    t.symbol? = none := by
  rw [wholeDigits.eq_def] at h
  split at h <;> split at h <;> cases h <;> rfl

theorem symbol?_of_fractionDigits {text : List Char} {t : Token}
    (h : fractionDigits text = .error t) : t.symbol? = none := by
  rw [fractionDigits.eq_def] at h
  split at h
  · split at h <;> cases h
    rfl
  · cases h

theorem symbol?_of_exponentAfter {text : List Char} {t : Token}
    (h : exponentAfter text = .error t) : t.symbol? = none := by
  simp only [exponentAfter] at h
  split at h <;> cases h
  rfl

theorem symbol?_of_exponent {text : List Char} {t : Token} (h : exponent text = .error t) :
    t.symbol? = none := by
  rw [exponent.eq_def] at h
  split at h
  · exact symbol?_of_exponentAfter h
  · exact symbol?_of_exponentAfter h
  · cases h

theorem symbol?_of_numeral {negative : Bool} {text : List Char} {t : Token}
    (h : numeral negative text = .error t) : t.symbol? = none := by
  simp only [numeral, bind, Except.bind] at h
  split at h
  · rename_i hwhole
    cases h
    exact symbol?_of_wholeDigits hwhole
  · split at h
    · rename_i hfraction
      cases h
      exact symbol?_of_fractionDigits hfraction
    · split at h
      · rename_i hexponent
        cases h
        exact symbol?_of_exponent hexponent
      · cases h

theorem number?_eq_some {negative : Bool} {text rest : List Char} {t : Token}
    (h : number? negative text = (t, some rest)) :
    t.symbol? = some .scalar ∧ ∃ unsigned, text = unsigned ++ rest ∧ IsUnsigned unsigned := by
  rw [number?] at h
  split at h
  · rename_i hn
    cases h
    exact ⟨rfl, exists_isUnsigned hn⟩
  · cases h

theorem symbol?_of_number? {negative : Bool} {text : List Char} {t : Token}
    (h : number? negative text = (t, none)) : t.symbol? = none := by
  rw [number?] at h
  split at h
  · cases h
  · rename_i hn
    cases h
    exact symbol?_of_numeral hn

/-! ## Words -/

theorem word?_eq_some_iff {token t : Token} {word text rest : List Char} :
    word? token word text = (t, some rest) ↔ t = token ∧ text = word ++ rest := by
  induction word generalizing text with
  | nil => simp [word?, eq_comm]
  | cons w ws ih =>
    cases text with
    | nil => simp [word?]
    | cons c text =>
      rw [word?]
      split
      · rename_i heq
        rw [ih, heq, List.cons_append, List.cons.injEq]
        simp
      · rename_i hne
        simp [Ne.symm hne]

theorem symbol?_of_word? {token t : Token} {word text : List Char}
    (h : word? token word text = (t, none)) : t.symbol? = none := by
  induction word generalizing text with
  | nil => cases h
  | cons w ws ih =>
    cases text with
    | nil =>
      cases h
      rfl
    | cons c text =>
      rw [word?] at h
      split at h
      · exact ih h
      · cases h
        rfl

/-! ## Lexemes -/

/-- **What is taken for a token is a lexeme.** -/
theorem exists_isLexeme {c : Char} {text rest : List Char} {t : Token}
    (h : next c text = (t, some rest)) :
    ∃ s lexeme, t.symbol? = some s ∧ IsLexeme s (c :: lexeme) ∧ text = lexeme ++ rest := by
  rw [next.eq_def] at h
  split at h
  case h_7 =>
    -- a string
    obtain ⟨ps, hps, rfl⟩ := string?_eq_some_iff.1 h
    obtain ⟨inside, rfl, hinside⟩ := isStringRest_of_pieces hps
    exact ⟨.string, inside, rfl, .string hinside, rfl⟩
  case h_8 | h_9 | h_10 =>
    -- a word
    obtain ⟨rfl, rfl⟩ := word?_eq_some_iff.1 h
    exact ⟨.scalar, _, rfl, .word (by simp), rfl⟩
  case h_11 =>
    -- a numeral after a minus
    obtain ⟨hsymbol, unsigned, rfl, hunsigned⟩ := number?_eq_some h
    exact ⟨.scalar, unsigned, hsymbol, .negative hunsigned, rfl⟩
  case h_12 =>
    -- a numeral, which takes its first digit along
    split at h
    · obtain ⟨hsymbol, unsigned, htext, hunsigned⟩ := number?_eq_some h
      obtain ⟨d, tail, rfl, -⟩ := exists_cons_of_isUnsigned hunsigned
      obtain ⟨rfl, rfl⟩ := List.cons.inj htext
      exact ⟨.scalar, tail, hsymbol, .unsigned hunsigned, rfl⟩
    · cases h
  all_goals
    cases h
    exact ⟨_, [], rfl, .mark (by decide), rfl⟩

/-- What does not come to its end is no lexeme. -/
theorem symbol?_eq_none {c : Char} {text : List Char} {t : Token}
    (h : next c text = (t, none)) : t.symbol? = none := by
  rw [next.eq_def] at h
  split at h
  case h_7 =>
    rw [string?] at h
    split at h
    · cases h
    · split at h <;> cases h <;> rfl
  case h_8 | h_9 | h_10 => exact symbol?_of_word? h
  case h_11 => exact symbol?_of_number? h
  case h_12 =>
    split at h
    · exact symbol?_of_number? h
    · cases h
      rfl
  all_goals cases h

theorem next_of_isDigit {c : Char} (hc : isDigit c = true) (text : List Char) :
    isBlank c = false ∧ next c text = number? false (c :: text) := by
  constructor
  · rw [Bool.eq_false_iff, isBlank, ne_eq, decide_eq_true_eq]
    rintro (rfl | rfl | rfl | rfl) <;> cases hc
  · rw [next.eq_def]
    split
    case h_12 => rw [if_pos hc]
    all_goals cases hc

/-- **A lexeme is taken for a token.** What follows does not matter, unless the lexeme is a number
that could go on. -/
theorem next_of_isLexeme {s : Symbol} {lexeme : List Char} (h : IsLexeme s lexeme) :
    ∃ c tail t, lexeme = c :: tail ∧ isBlank c = false ∧ t.symbol? = some s ∧
      ∀ rest, (s = .scalar → EndsNumeral rest) → next c (tail ++ rest) = (t, some rest) := by
  cases h with
  | @mark c hc =>
    simp only [marks, List.mem_cons, List.not_mem_nil, or_false] at hc
    rcases hc with rfl | rfl | rfl | rfl | rfl | rfl <;>
      exact ⟨_, [], _, rfl, rfl, rfl, fun rest _ => rfl⟩
  | @string text hinside =>
    obtain ⟨ps, hps⟩ := pieces_of_isStringRest hinside
    exact ⟨'"', text, _, rfl, rfl, rfl, fun rest _ => string?_eq_some_iff.2 ⟨ps, hps rest, rfl⟩⟩
  | word hword =>
    simp only [List.mem_cons, List.not_mem_nil, or_false] at hword
    rcases hword with rfl | rfl | rfl
    · exact ⟨'n', _, .null, rfl, rfl, rfl, fun rest _ => word?_eq_some_iff.2 ⟨rfl, rfl⟩⟩
    · exact ⟨'t', _, .bool true, rfl, rfl, rfl, fun rest _ => word?_eq_some_iff.2 ⟨rfl, rfl⟩⟩
    · exact ⟨'f', _, .bool false, rfl, rfl, rfl, fun rest _ => word?_eq_some_iff.2 ⟨rfl, rfl⟩⟩
  | @unsigned text hunsigned =>
    obtain ⟨n, hn⟩ := numeral_of_isUnsigned hunsigned false
    obtain ⟨c, tail, rfl, hc⟩ := exists_cons_of_isUnsigned hunsigned
    refine ⟨c, tail, .number (Number.ofNumeral? n), rfl, (next_of_isDigit hc []).1, rfl,
      fun rest hrest => ?_⟩
    rw [(next_of_isDigit hc _).2, number?, ← List.cons_append, hn rest (hrest rfl)]
  | @negative text hunsigned =>
    obtain ⟨n, hn⟩ := numeral_of_isUnsigned hunsigned true
    refine ⟨'-', text, .number (Number.ofNumeral? n), rfl, rfl, rfl, fun rest hrest => ?_⟩
    rw [next, number?, hn rest (hrest rfl)]

/-! ## Texts -/

theorem ofText_append_of_blanks {blanks : List Char} (h : ∀ c ∈ blanks, isBlank c = true)
    (text : List Char) : ofText (blanks ++ text) = ofText text := by
  induction blanks with
  | nil => rfl
  | cons c rest ih =>
    obtain ⟨hc, hrest⟩ := List.forall_mem_cons.1 h
    rw [List.cons_append, ofText, if_pos hc, ih hrest]

theorem ofText_of_next {c : Char} {text rest : List Char} {t : Token} (hc : isBlank c = false)
    (h : next c text = (t, some rest)) : ofText (c :: text) = t :: ofText rest := by
  rw [ofText, hc, if_neg Bool.false_ne_true]
  split
  · rename_i hnext
    rw [h] at hnext
    cases hnext
    rfl
  · rename_i hnext
    rw [h] at hnext
    cases hnext

theorem ofText_of_next_none {c : Char} {text : List Char} {t : Token} (hc : isBlank c = false)
    (h : next c text = (t, none)) : ofText (c :: text) = [t] := by
  rw [ofText, hc, if_neg Bool.false_ne_true]
  split
  · rename_i hnext
    rw [h] at hnext
    cases hnext
  · rename_i hnext
    rw [h] at hnext
    cases hnext
    rfl

theorem ofText_eq_nil_iff {text : List Char} :
    ofText text = [] ↔ ∀ c ∈ text, isBlank c = true := by
  induction text with
  | nil => simp [ofText]
  | cons c text ih =>
    rw [ofText]
    split
    · rename_i hc
      simp [ih, hc]
    · rename_i hc
      refine iff_of_false ?_ fun h => hc (h c List.mem_cons_self)
      split <;> simp

/-- The first token of a text stands behind blanks, and the others follow it. -/
theorem exists_next_of_ofText {text : List Char} {t : Token} {ts : List Token}
    (h : ofText text = t :: ts) :
    ∃ blanks c tail, text = blanks ++ c :: tail ∧ (∀ b ∈ blanks, isBlank b = true) ∧
      ((∃ rest, next c tail = (t, some rest) ∧ ofText rest = ts) ∨ next c tail = (t, none)) := by
  induction text with
  | nil =>
    rw [ofText] at h
    cases h
  | cons c text ih =>
    by_cases hc : isBlank c = true
    · rw [ofText, if_pos hc] at h
      obtain ⟨blanks, d, tail, rfl, hblanks, hnext⟩ := ih h
      exact ⟨c :: blanks, d, tail, rfl, List.forall_mem_cons.2 ⟨hc, hblanks⟩, hnext⟩
    · rw [Bool.not_eq_true] at hc
      refine ⟨[], c, text, rfl, List.forall_mem_nil _, ?_⟩
      rcases hnext : next c text with ⟨u, _ | rest⟩
      · rw [ofText_of_next_none hc hnext] at h
        cases h
        exact .inr rfl
      · rw [ofText_of_next hc hnext] at h
        cases h
        exact .inl ⟨rest, rfl, rfl⟩

/-- No two scalars stand next to each other. -/
def Parted (symbols : List Symbol) : Prop :=
  symbols.IsChain fun s t => s = .scalar → t ≠ .scalar

theorem endsNumeral_blank {c : Char} (hc : isBlank c = true) (text : List Char) :
    EndsNumeral (c :: text) := by
  rw [isBlank, decide_eq_true_eq] at hc
  rintro _ ⟨⟩
  rcases hc with rfl | rfl | rfl | rfl <;> exact ⟨rfl, by decide⟩

/-- A number does not go on with the next lexeme, unless that is a scalar as well. -/
theorem endsNumeral_of_spells {symbols : List Symbol} {text rest : List Char}
    (h : Spells symbols text) (hscalar : ∀ s ∈ symbols.head?, s ≠ .scalar)
    (hrest : symbols = [] → EndsNumeral rest) : EndsNumeral (text ++ rest) := by
  cases h with
  | blanks h =>
    cases text with
    | nil => exact hrest rfl
    | cons c text => exact endsNumeral_blank (h c List.mem_cons_self) _
  | @lexeme s symbols blanks lexeme text hblanks hlexeme htext =>
    cases blanks with
    | cons c blanks => exact endsNumeral_blank (hblanks c List.mem_cons_self) _
    | nil =>
      cases hlexeme with
      | mark hc =>
        simp only [marks, List.mem_cons, List.not_mem_nil, or_false] at hc
        rintro _ ⟨⟩
        rcases hc with rfl | rfl | rfl | rfl | rfl | rfl <;> exact ⟨rfl, by decide⟩
      | string =>
        rintro _ ⟨⟩
        exact ⟨rfl, by decide⟩
      | _ => exact absurd rfl (hscalar _ rfl)

/-- **The lexemes of a text are its tokens.** It does not matter what the text goes on with, unless
the last lexeme is a number that could go on. -/
theorem ofText_of_spells {symbols : List Symbol} {text : List Char} (h : Spells symbols text)
    (hparted : Parted symbols) :
    ∃ ts : List Token, ts.map symbol? = symbols.map some ∧
      ∀ rest, (symbols.getLast? = some .scalar → EndsNumeral rest) →
        ofText (text ++ rest) = ts ++ ofText rest := by
  induction h with
  | blanks h => exact ⟨[], rfl, fun rest _ => ofText_append_of_blanks h rest⟩
  | @lexeme s symbols blanks lexeme text hblanks hlexeme htext ih =>
    obtain ⟨hhead, htail⟩ := List.isChain_cons.1 hparted
    obtain ⟨ts, hts, htokens⟩ := ih htail
    obtain ⟨c, tail, t, rfl, hc, hsymbol, hnext⟩ := next_of_isLexeme hlexeme
    refine ⟨t :: ts, by simp [hsymbol, hts], fun rest hlast => ?_⟩
    have hends : s = .scalar → EndsNumeral (text ++ rest) := by
      intro hs
      refine endsNumeral_of_spells htext (fun u hu => hhead u hu hs) ?_
      rintro rfl
      exact hlast (congrArg some hs)
    have hrest : symbols.getLast? = some .scalar → EndsNumeral rest := by
      intro hscalar
      refine hlast ?_
      rw [List.getLast?_cons, hscalar]
      rfl
    rw [List.append_assoc, ofText_append_of_blanks hblanks, List.append_assoc, List.cons_append,
      ofText_of_next hc (hnext _ hends), htokens rest hrest]
    rfl

/-- **The tokens of a text are its lexemes.** -/
theorem exists_spells {ts ts' : List Token} {symbols : List Symbol}
    (hsymbols : ts.map symbol? = symbols.map some) {text : List Char}
    (h : ofText text = ts ++ ts') :
    ∃ first rest, text = first ++ rest ∧ Spells symbols first ∧ ofText rest = ts' := by
  induction ts generalizing symbols text with
  | nil =>
    cases symbols with
    | nil => exact ⟨[], text, rfl, .blanks nofun, h⟩
    | cons s symbols => cases hsymbols
  | cons t ts ih =>
    cases symbols with
    | nil => cases hsymbols
    | cons s symbols =>
      obtain ⟨hsymbol, hsymbols⟩ := List.cons.inj hsymbols
      obtain ⟨blanks, c, tail, rfl, hblanks, ⟨rest, hnext, hrest⟩ | hnext⟩ :=
        exists_next_of_ofText h
      · obtain ⟨s', lexeme, hs', hlexeme, rfl⟩ := exists_isLexeme hnext
        obtain ⟨first, rest, rfl, hfirst, htokens⟩ := ih hsymbols hrest
        obtain rfl : s' = s := Option.some.inj (hs'.symm.trans hsymbol)
        exact ⟨blanks ++ (c :: lexeme ++ first), rest, by simp, .lexeme hblanks hlexeme hfirst,
          htokens⟩
      · rw [symbol?_eq_none hnext] at hsymbol
        cases hsymbol

end Token

end AccessPolicy
