import AccessPolicy.Settings.Statement
import AccessPolicy.Settings.Value

/-!
# Settings files

A settings file sets variables that the environment lacks. A statement holds a name, an equals
sign and a value, with `export` in front of it or not. The statements take effect one after the
other, so that a value may refer to the variables that are set before it, and nothing takes
effect from the first one on that is not well formed.

## Main definitions

* `Setting`, `Setting.ofChars` — what a statement says.
* `Settings.Loading` — how far the statements of a file took effect.
* `Settings.load` — the effect of the text of a file.
-/
namespace AccessPolicy.Settings

/-! ## Statements -/

/-- What a statement says. -/
inductive Setting where
  /-- Nothing. -/
  | blank
  /-- The value of a variable. -/
  | assigned (name value : String)
  /-- It is not well formed. -/
  | malformed
deriving DecidableEq

/-- Whether nothing is written: the end or a comment comes next. -/
def isBlank : List Char → Bool
  | [] => true
  | c :: _ => c = '#'

/-- Whether a name may begin with a character. -/
def isNameStart (c : Char) : Bool := c.isAlpha || c = '_'

/-- Whether a name may go on with a character. -/
def isNamePart (c : Char) : Bool := c.isAlphanum || c = '_' || c = '.'

/-- The name at the start of some characters, and the characters after it and the white space
behind it. -/
def name? : List Char → Option (String × List Char)
  | [] => none
  | c :: rest =>
    if isNameStart c then
      some (String.ofList (c :: rest.takeWhile isNamePart),
        (rest.dropWhile isNamePart).dropWhile Text.isWhiteSpace)
    else none

/-- The name in front of an equals sign, and the characters after it. The name `export` may be
one itself. -/
def assigned? (written : List Char) : Option (String × List Char) := do
  match ← name? written with
  | (name, '=' :: rest) => some (name, rest)
  | (name, rest) =>
    if name = "export" then
      match ← name? rest with
      | (name, '=' :: rest) => some (name, rest)
      | _ => none
    else none

/-- What a statement says, without the white space at its ends, if some variables are set. -/
def Setting.ofChars (vars : Variables) (written : List Char) : Setting :=
  let written := (Text.trim (String.ofList written)).toList
  if isBlank written then blank
  else
    match assigned? written with
    | none => malformed
    | some (name, rest) =>
      let rest := rest.dropWhile Text.isWhiteSpace
      if isBlank rest then assigned name ""
      else
        match value? vars rest with
        | some value => assigned name value
        | none => malformed

/-! ## Files -/

/-- Whether a variable can hold a value: the null character would end it. -/
def isHeld (value : String) : Bool := value.toList.all fun c => c.toNat ≠ 0

/-- How far the statements of a file took effect, and the variables after it. -/
inductive Loading where
  /-- All of them did. -/
  | completed (vars : Variables)
  /-- Those did that stand in front of one that is not well formed or cannot be read. -/
  | stopped (vars : Variables)
  /-- A variable was to be set to a value that it cannot hold, and the program ends. -/
  | aborted

namespace Loading

/-- The variables, unless the program ends. -/
def variables? : Loading → Option Variables
  | completed vars => some vars
  | stopped vars => some vars
  | aborted => none

/-- The effect of a file that cannot be read any further. -/
def interrupted : Loading → Loading
  | completed vars => stopped vars
  | loading => loading

end Loading

/-- The effect of some statements. -/
def loadStatements (vars : Variables) : List Statement → Loading
  | [] => .completed vars
  | .unfinished :: _ => .stopped vars
  | .written characters :: rest =>
    match Setting.ofChars vars characters with
    | .blank => loadStatements vars rest
    | .malformed => .stopped vars
    | .assigned name value =>
      if vars.contains name then loadStatements vars rest
      else if isHeld value then loadStatements (vars.insert name value) rest
      else .aborted

/-- The effect of the text of a settings file. -/
def load (vars : Variables) (text : String) : Loading :=
  loadStatements vars (Statement.ofText text)

/-- The longest runs of characters that pass a test. -/
def runs (test : Char → Bool) : List Char → List (List Char)
  | [] => [[]]
  | c :: rest =>
    match runs test rest with
    | [] => []
    | run :: others => if test c then (c :: run) :: others else [] :: run :: others

/-- Names that the text of a settings file may set or refer to. -/
def mentioned (text : String) : List String :=
  ((runs isNamePart text.toList ++ runs Char.isAlphanum text.toList).filter (!·.isEmpty)).map
    String.ofList

end AccessPolicy.Settings
