import AccessPolicy.Json.Token

/-!
# The grammar of JSON text

What JSON is can be said without reading it. A text falls into lexemes with blanks around them: the
six marks, strings, and scalars, which are numerals and the three words. A lexeme is a symbol
together with the characters that spell it, and a grammar says which symbols form a value.

A string may be spelled well and still denote no text, and a numeral may denote a number that is
too large. That is not a matter of the grammar.

## Main definitions

* `Grammar.Symbol`, `Grammar.IsLexeme` — the symbols and their spellings.
* `Grammar.Spells` — a text consists of lexemes with given symbols.
* `Grammar.IsValue` — symbols that form a value.
* `Grammar.IsText` — a text is one value.
* `Token.symbol?` — the symbol of a token.
-/
namespace AccessPolicy

namespace Grammar

open Token (isBlank isDigit hexValue?)

/-! ## Lexemes -/

/-- What a lexeme is, whatever its spelling. -/
inductive Symbol where
  /-- A bracket or a separator. -/
  | mark (c : Char)
  | string
  /-- A numeral or one of the three words. -/
  | scalar
deriving DecidableEq

/-- The brackets and the separators. -/
def marks : List Char := ['[', ']', '\x7b', '\x7d', ',', ':']

/-- Decimal digits, at least one. -/
def IsDigits (digits : List Char) : Prop := digits ≠ [] ∧ ∀ c ∈ digits, isDigit c = true

/-- The digits of a numeral in front of its point: a zero, or digits that do not begin with
one. -/
def IsWhole (digits : List Char) : Prop :=
  digits = ['0'] ∨ IsDigits digits ∧ digits.head? ≠ some '0'

/-- The fraction of a numeral, which may be absent. -/
def IsFraction (text : List Char) : Prop :=
  text = [] ∨ ∃ digits, IsDigits digits ∧ text = '.' :: digits

/-- The exponent of a numeral, which may be absent. -/
def IsExponent (text : List Char) : Prop :=
  text = [] ∨ ∃ e ∈ ['e', 'E'], ∃ sign ∈ [[], ['+'], ['-']], ∃ digits, IsDigits digits ∧
    text = e :: (sign ++ digits)

/-- A numeral without its sign. -/
def IsUnsigned (text : List Char) : Prop :=
  ∃ whole fraction exponent, IsWhole whole ∧ IsFraction fraction ∧ IsExponent exponent ∧
    text = whole ++ fraction ++ exponent

/-- The inside of a string together with its closing quote. -/
inductive IsStringRest : List Char → Prop
  | close : IsStringRest ['"']
  | char {c : Char} {text : List Char} (hc : c ∉ ['"', '\\'] ∧ ¬ c < ' ')
      (h : IsStringRest text) : IsStringRest (c :: text)
  | escape {c : Char} {text : List Char} (hc : c ∈ ['"', '\\', '/', 'b', 'f', 'n', 'r', 't'])
      (h : IsStringRest text) : IsStringRest ('\\' :: c :: text)
  | unit {a b c d : Char} {text : List Char} (hdigits : ∀ x ∈ [a, b, c, d], (hexValue? x).isSome)
      (h : IsStringRest text) : IsStringRest ('\\' :: 'u' :: a :: b :: c :: d :: text)

/-- The characters spell a lexeme. -/
inductive IsLexeme : Symbol → List Char → Prop
  | mark {c : Char} (h : c ∈ marks) : IsLexeme (.mark c) [c]
  | string {text : List Char} (h : IsStringRest text) : IsLexeme .string ('"' :: text)
  | word {text : List Char}
      (h : text ∈ [['n', 'u', 'l', 'l'], ['t', 'r', 'u', 'e'], ['f', 'a', 'l', 's', 'e']]) :
      IsLexeme .scalar text
  | unsigned {text : List Char} (h : IsUnsigned text) : IsLexeme .scalar text
  | negative {text : List Char} (h : IsUnsigned text) : IsLexeme .scalar ('-' :: text)

/-- The text consists of lexemes with the given symbols, and of blanks around them. -/
inductive Spells : List Symbol → List Char → Prop
  | blanks {text : List Char} (h : ∀ c ∈ text, isBlank c = true) : Spells [] text
  | lexeme {s : Symbol} {rest : List Symbol} {blanks lexeme text : List Char}
      (hblanks : ∀ c ∈ blanks, isBlank c = true) (hlexeme : IsLexeme s lexeme)
      (h : Spells rest text) : Spells (s :: rest) (blanks ++ (lexeme ++ text))

/-! ## Values -/

mutual

/-- The symbols form a value. -/
inductive IsValue : List Symbol → Prop
  | scalar : IsValue [.scalar]
  | string : IsValue [.string]
  | emptyArray : IsValue [.mark '[', .mark ']']
  | array {items : List Symbol} (h : IsItems items) :
      IsValue (.mark '[' :: (items ++ [.mark ']']))
  | emptyObject : IsValue [.mark '\x7b', .mark '\x7d']
  | object {members : List Symbol} (h : IsMembers members) :
      IsValue (.mark '\x7b' :: (members ++ [.mark '\x7d']))

/-- The symbols form values with commas between them. -/
inductive IsItems : List Symbol → Prop
  | one {v : List Symbol} (h : IsValue v) : IsItems v
  | more {v items : List Symbol} (h : IsValue v) (hitems : IsItems items) :
      IsItems (v ++ .mark ',' :: items)

/-- The symbols form keys and values with commas between them. -/
inductive IsMembers : List Symbol → Prop
  | one {v : List Symbol} (h : IsValue v) : IsMembers (.string :: .mark ':' :: v)
  | more {v members : List Symbol} (h : IsValue v) (hmembers : IsMembers members) :
      IsMembers (.string :: .mark ':' :: (v ++ .mark ',' :: members))

end

/-- The text is one value with blanks around it. -/
def IsText (text : List Char) : Prop := ∃ symbols, IsValue symbols ∧ Spells symbols text

end Grammar

/-- The symbol of a token. A token that does not come to its end has none. -/
def Token.symbol? : Token → Option Grammar.Symbol
  | openBracket => some (.mark '[')
  | closeBracket => some (.mark ']')
  | openBrace => some (.mark '\x7b')
  | closeBrace => some (.mark '\x7d')
  | comma => some (.mark ',')
  | colon => some (.mark ':')
  | null => some .scalar
  | bool _ => some .scalar
  | number _ => some .scalar
  | string _ => some .string
  | brokenString _ _ => none
  | broken _ _ => none

end AccessPolicy
