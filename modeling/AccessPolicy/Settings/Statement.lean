import AccessPolicy.Text.Lower

/-!
# Statements of a settings file

A settings file is a list of statements. A statement ends with its line, unless the line ends
between quotes; the statement then goes on with the next line. A comment begins with a number
sign at the start of a statement, or right behind a white space that no white space precedes,
and ends with its line.

## Main definitions

* `Statement` — the characters of a statement, or an unfinished one.
* `Statement.ofText` — the statements of a text.
-/
namespace AccessPolicy.Settings

/-- A part of a settings file. -/
inductive Statement where
  /-- A statement, without its comment. -/
  | written (characters : List Char)
  /-- A statement that the end of the file cuts off. -/
  | unfinished
deriving DecidableEq

namespace Statement

/-- What the characters before a character say about it. -/
inductive Position where
  /-- Nothing but white space stands before it in the statement. -/
  | start
  /-- It stands outside quotes. -/
  | bare
  /-- It stands outside quotes, behind a white space that does not follow another one. -/
  | spaced
  /-- It stands outside quotes, behind a backslash. -/
  | escaped
  /-- It stands between quotes of the given kind. -/
  | quoted (mark : Char)
  /-- It stands between quotes of the given kind, behind a backslash. -/
  | quotedEscaped (mark : Char)
  /-- It stands in a comment. -/
  | comment
deriving DecidableEq

namespace Position

/-- The position behind a character that does not follow a single white space, is no white space
itself and stands outside quotes. -/
def afterBare (c : Char) : Position :=
  if c = '\\' then escaped
  else if c = '\x22' ∨ c = '\x27' then quoted c
  else bare

/-- The position behind a character. -/
def next (c : Char) : Position → Position
  | start => if Text.isWhiteSpace c then start else if c = '#' then comment else afterBare c
  | bare => if Text.isWhiteSpace c ∧ c ≠ '\r' then spaced else afterBare c
  | spaced => if c = '#' then comment else afterBare c
  | escaped => bare
  | quoted mark => if c = '\\' then quotedEscaped mark else if c = mark then bare else quoted mark
  | quotedEscaped mark => quoted mark
  | comment => comment

/-- Whether the end of a line does not end the statement here. -/
def isQuoted : Position → Bool
  | quoted _ => true
  | quotedEscaped _ => true
  | _ => false

/-- Whether the end of the file cuts the statement off here. Behind a white space or a backslash
a statement is expected to go on. -/
def isOpen : Position → Bool
  | start => false
  | bare => false
  | comment => false
  | _ => true

end Position

/-- The statements of some characters; `read` are those of the first statement so far, the last
one first. -/
def ofChars (position : Position) (read : List Char) : List Char → List Statement
  | [] => if position.isOpen then [unfinished] else [written read.reverse]
  | c :: rest =>
    if c = '\n' ∧ !position.isQuoted then written read.reverse :: ofChars .start [] rest
    else
      let position := position.next c
      ofChars position (if position = .comment then read else c :: read) rest

/-- A text without the mark of byte order at its start. -/
def withoutMark : List Char → List Char
  | [] => []
  | c :: rest => if c.toNat = 0xFEFF then rest else c :: rest

/-- The statements of a text. -/
def ofText (text : String) : List Statement := ofChars .start [] (withoutMark text.toList)

end Statement

end AccessPolicy.Settings
