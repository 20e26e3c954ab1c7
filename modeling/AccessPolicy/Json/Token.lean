import AccessPolicy.Json.Document

/-!
# Tokens of JSON text

A text falls into brackets, separators and scalars with blanks between them. A scalar that
cannot be told from its first characters to its end stops the division; the token says how,
both for a reader that wants its value and for one that passes over it.

## Main definitions

* `Token` — the tokens.
* `Token.ofText` — the tokens of a text.
-/
namespace AccessPolicy

/-- A token of JSON text. -/
inductive Token where
  | openBracket
  | closeBracket
  | openBrace
  | closeBrace
  | comma
  | colon
  | null
  | bool (b : Bool)
  /-- A number; `none` if it is too large. -/
  | number (n : Option Number)
  /-- A string; a flaw if an escape denotes half a character. -/
  | string (s : Except Flaw String)
  /-- A string that does not come to its end. -/
  | brokenString (reading passing : Flaw)
  /-- Something else that does not come to its end, or that begins no token at all. -/
  | broken (reading passing : Flaw)

namespace Token

/-! ## Strings -/

/-- A piece of a string between its quotes: a character, or the code unit of an escape. -/
inductive Piece where
  | char (c : Char)
  | unit (n : Nat)

/-- The value of a hexadecimal digit. -/
def hexValue? (c : Char) : Option Nat :=
  if '0' ≤ c ∧ c ≤ '9' then some (c.toNat - 48)
  else if 'a' ≤ c ∧ c ≤ 'f' then some (c.toNat - 87)
  else if 'A' ≤ c ∧ c ≤ 'F' then some (c.toNat - 55)
  else none

/-- The code unit written by four hexadecimal digits. -/
def unit? (a b c d : Char) : Option Nat := do
  pure ((← hexValue? a) * 4096 + (← hexValue? b) * 256 + (← hexValue? c) * 16 + (← hexValue? d))

/-- The character that a letter after a backslash stands for. -/
def escaped? (c : Char) : Option Char :=
  if c = '"' ∨ c = '\\' ∨ c = '/' then some c
  else if c = 'b' then some (Char.ofNat 8)
  else if c = 'f' then some (Char.ofNat 12)
  else if c = 'n' then some (Char.ofNat 10)
  else if c = 'r' then some (Char.ofNat 13)
  else if c = 't' then some (Char.ofNat 9)
  else none

/-- What is wrong with `\u` when fewer than four characters follow. Four bytes are looked at:
the text ends too early only if it has fewer. -/
def shortUnitFlaw (rest : List Char) : Flaw :=
  if (String.ofList rest).utf8ByteSize < 4 then .truncated else .malformed

/-- The pieces of a string up to its closing quote, with the text after it; or up to a flaw. -/
def pieces : List Char → List Piece × Except Flaw (List Char)
  | [] => ([], .error .truncated)
  | '"' :: rest => ([], .ok rest)
  | '\\' :: [] => ([], .error .truncated)
  | '\\' :: 'u' :: a :: b :: c :: d :: rest =>
    match unit? a b c d with
    | some n => let (ps, stop) := pieces rest; (.unit n :: ps, stop)
    | none => ([], .error .malformed)
  | '\\' :: 'u' :: rest => ([], .error (shortUnitFlaw rest))
  | '\\' :: e :: rest =>
    match escaped? e with
    | some c => let (ps, stop) := pieces rest; (.char c :: ps, stop)
    | none => ([], .error .malformed)
  | c :: rest =>
    if c < ' ' then ([], .error .malformed)
    else let (ps, stop) := pieces rest; (.char c :: ps, stop)

/-- The first half of a character beyond the first 65536. -/
def isHighHalf (n : Nat) : Bool := 0xD800 ≤ n ∧ n ≤ 0xDBFF

/-- The second half of a character beyond the first 65536. -/
def isLowHalf (n : Nat) : Bool := 0xDC00 ≤ n ∧ n ≤ 0xDFFF

/-- The text denoted by pieces. Two halves in a row denote one character, and a half on its
own is malformed. Pieces that end by a flaw denote no text, and a first half in front of that
flaw is no flaw of its own. -/
def denote (flaw : Option Flaw) : List Piece → Except Flaw (List Char)
  | [] => match flaw with
    | none => .ok []
    | some flaw => .error flaw
  | .char c :: rest => (c :: ·) <$> denote flaw rest
  | .unit n :: rest =>
    if isLowHalf n then .error .malformed
    else if isHighHalf n then
      match rest with
      | .unit m :: rest =>
        if isLowHalf m then
          (Char.ofNat (0x10000 + (n - 0xD800) * 0x400 + (m - 0xDC00)) :: ·) <$> denote flaw rest
        else .error .malformed
      | [] => .error (flaw.getD .malformed)
      | .char _ :: _ => .error .malformed
    else (Char.ofNat n :: ·) <$> denote flaw rest

/-- The string token after an opening quote, and the text after it. -/
def string? (text : List Char) : Token × Option (List Char) :=
  match pieces text with
  | (ps, .ok rest) => (.string (String.ofList <$> denote none ps), some rest)
  | (ps, .error flaw) =>
    match denote (some flaw) ps with
    | .error reading => (.brokenString reading flaw, none)
    | .ok _ => (.brokenString flaw flaw, none)

/-! ## Numbers -/

/-- A decimal digit. -/
def isDigit (c : Char) : Bool := '0' ≤ c ∧ c ≤ '9'

/-- The token for a number that lacks a digit in front of `rest`. -/
def lackingDigit (rest : List Char) : Token :=
  .broken (if rest.isEmpty then .truncated else .malformed) .malformed

/-- Digits before the point, at least one; only a single zero may come first. -/
def wholeDigits : List Char → Except Token (List Char × List Char)
  | '0' :: rest =>
    if (rest.takeWhile isDigit).isEmpty then .ok (['0'], rest)
    else .error (.broken .malformed .malformed)
  | text =>
    if (text.takeWhile isDigit).isEmpty then .error (lackingDigit text)
    else .ok (text.takeWhile isDigit, text.dropWhile isDigit)

/-- The digits after a point, if there is one. -/
def fractionDigits : List Char → Except Token (Option (List Char) × List Char)
  | '.' :: rest =>
    if (rest.takeWhile isDigit).isEmpty then .error (lackingDigit rest)
    else .ok (some (rest.takeWhile isDigit), rest.dropWhile isDigit)
  | text => .ok (none, text)

/-- A sign in front of the digits of an exponent. -/
def exponentSign : List Char → Bool × List Char
  | '-' :: rest => (true, rest)
  | '+' :: rest => (false, rest)
  | text => (false, text)

/-- The exponent after an `e`. -/
def exponentAfter (text : List Char) : Except Token (Option Int × List Char) :=
  let (negative, rest) := exponentSign text
  let n := Nat.ofDigitChars 10 (rest.takeWhile isDigit) 0
  if (rest.takeWhile isDigit).isEmpty then .error (lackingDigit rest)
  else .ok (some (if negative then -(n : Int) else n), rest.dropWhile isDigit)

/-- The exponent, if there is one. -/
def exponent : List Char → Except Token (Option Int × List Char)
  | 'e' :: rest => exponentAfter rest
  | 'E' :: rest => exponentAfter rest
  | text => .ok (none, text)

/-- The numeral after a sign, with the text after it. -/
def numeral (negative : Bool) (text : List Char) : Except Token (Numeral × List Char) := do
  let (whole, rest) ← wholeDigits text
  let (fraction, rest) ← fractionDigits rest
  let (power, rest) ← exponent rest
  pure (⟨negative, whole, fraction, power⟩, rest)

/-- The number token after a sign, and the text after it. -/
def number? (negative : Bool) (text : List Char) : Token × Option (List Char) :=
  match numeral negative text with
  | .ok (n, rest) => (.number (Number.ofNumeral? n), some rest)
  | .error token => (token, none)

/-! ## Words -/

/-- The token written by a word, if the text goes on with the rest of the word. -/
def word? (token : Token) : List Char → List Char → Token × Option (List Char)
  | [], text => (token, some text)
  | _ :: _, [] => (.broken .truncated .truncated, none)
  | w :: ws, c :: text =>
    if w = c then word? token ws text else (.broken .malformed .malformed, none)

/-! ## Texts -/

/-- The blanks between tokens: space, tab, line feed and carriage return. -/
def isBlank (c : Char) : Bool := c = ' ' ∨ c = '\t' ∨ c = '\n' ∨ c = '\r'

/-- The token that begins with `c`, and the text after it. -/
def next (c : Char) (text : List Char) : Token × Option (List Char) :=
  match c with
  | '[' => (.openBracket, some text)
  | ']' => (.closeBracket, some text)
  | '\x7b' => (.openBrace, some text)
  | '\x7d' => (.closeBrace, some text)
  | ',' => (.comma, some text)
  | ':' => (.colon, some text)
  | '"' => string? text
  | 'n' => word? .null ['u', 'l', 'l'] text
  | 't' => word? (.bool true) ['r', 'u', 'e'] text
  | 'f' => word? (.bool false) ['a', 'l', 's', 'e'] text
  | '-' => number? true text
  | c => if isDigit c then number? false (c :: text) else (.broken .malformed .malformed, none)

/-! ### Every token takes at least one character -/

theorem length_pieces {text rest : List Char} {ps : List Piece}
    (h : pieces text = (ps, .ok rest)) : rest.length < text.length := by
  fun_induction pieces text generalizing ps <;>
    simp only [Prod.mk.injEq, reduceCtorEq, and_false, Except.ok.injEq] at h
  case case2 => simp [h.2]
  all_goals
    rename_i hs ih
    rw [h.2] at hs
    have := ih hs
    simp only [List.length_cons]
    omega

theorem length_string? {text rest : List Char} {token : Token}
    (h : string? text = (token, some rest)) : rest.length ≤ text.length := by
  unfold string? at h
  split at h
  · rename_i hp
    simp only [Prod.mk.injEq, Option.some.injEq] at h
    exact h.2 ▸ Nat.le_of_lt (length_pieces hp)
  · split at h <;> simp at h

theorem length_takeWhile_dropWhile (p : Char → Bool) (text : List Char) :
    (text.takeWhile p).length + (text.dropWhile p).length = text.length := by
  rw [← List.length_append, List.takeWhile_append_dropWhile]

theorem length_wholeDigits {text digits rest : List Char}
    (h : wholeDigits text = .ok (digits, rest)) : rest.length < text.length := by
  unfold wholeDigits at h
  split at h
  · split at h <;> simp at h; simp [h.2]
  · split at h
    · simp at h
    · rename_i hd
      have := length_takeWhile_dropWhile isDigit text
      simp only [Except.ok.injEq, Prod.mk.injEq] at h
      simp only [List.isEmpty_iff, ← List.length_eq_zero_iff] at hd
      rw [← h.2]; omega

theorem length_fractionDigits {text rest : List Char} {digits : Option (List Char)}
    (h : fractionDigits text = .ok (digits, rest)) : rest.length ≤ text.length := by
  unfold fractionDigits at h
  split at h
  · rename_i r
    split at h
    · simp at h
    · have := length_takeWhile_dropWhile isDigit r
      simp only [Except.ok.injEq, Prod.mk.injEq] at h
      rw [← h.2, List.length_cons]; omega
  · simp at h; simp [h.2]

theorem length_exponentSign (text : List Char) :
    (exponentSign text).2.length ≤ text.length := by
  unfold exponentSign; split <;> simp

theorem length_exponentAfter {text rest : List Char} {e : Option Int}
    (h : exponentAfter text = .ok (e, rest)) : rest.length ≤ text.length := by
  have hs := length_exponentSign text
  have hd := length_takeWhile_dropWhile isDigit (exponentSign text).2
  simp only [exponentAfter] at h
  split at h
  · simp at h
  · simp only [Except.ok.injEq, Prod.mk.injEq] at h
    rw [← h.2]; omega

theorem length_exponent {text rest : List Char} {e : Option Int}
    (h : exponent text = .ok (e, rest)) : rest.length ≤ text.length := by
  unfold exponent at h
  split at h
  · exact Nat.le_succ_of_le (length_exponentAfter h)
  · exact Nat.le_succ_of_le (length_exponentAfter h)
  · simp at h; simp [h.2]

theorem length_numeral {negative : Bool} {text rest : List Char} {n : Numeral}
    (h : numeral negative text = .ok (n, rest)) : rest.length < text.length := by
  simp only [numeral, bind, Except.bind, pure, Except.pure] at h
  split at h
  · simp at h
  rename_i w hw
  split at h
  · simp at h
  rename_i f hf
  split at h
  · simp at h
  rename_i e he
  simp only [Except.ok.injEq, Prod.mk.injEq] at h
  have hw := length_wholeDigits hw
  have hf := length_fractionDigits hf
  have he := length_exponent he
  rw [← h.2]; omega

theorem length_number? {negative : Bool} {text rest : List Char} {token : Token}
    (h : number? negative text = (token, some rest)) : rest.length < text.length := by
  unfold number? at h
  split at h
  · rename_i hn
    simp only [Prod.mk.injEq, Option.some.injEq] at h
    exact h.2 ▸ length_numeral hn
  · simp at h

theorem length_word? {token result : Token} {word text rest : List Char}
    (h : word? token word text = (result, some rest)) : rest.length ≤ text.length := by
  fun_induction word? token word text with grind

/-- A token takes its first character at least. -/
theorem length_next {c : Char} {text rest : List Char} {token : Token}
    (h : next c text = (token, some rest)) : rest.length ≤ text.length := by
  unfold next at h
  split at h
  case h_7 => exact length_string? h
  case h_8 => exact length_word? h
  case h_9 => exact length_word? h
  case h_10 => exact length_word? h
  case h_11 => exact Nat.le_of_lt (length_number? h)
  case h_12 =>
    split at h
    · exact Nat.le_of_lt_succ (length_number? h)
    · simp at h
  all_goals simp at h; simp [h.2]

/-- The tokens of a text, up to the first one that does not come to its end. -/
def ofText : List Char → List Token
  | [] => []
  | c :: text =>
    if isBlank c then ofText text
    else
      match _h : next c text with
      | (token, some rest) => token :: ofText rest
      | (token, none) => [token]
termination_by text => text.length
decreasing_by
  · simp
  · exact Nat.lt_succ_of_le (length_next _h)

end Token

end AccessPolicy
