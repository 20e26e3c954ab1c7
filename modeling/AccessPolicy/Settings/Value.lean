import AccessPolicy.Dict
import AccessPolicy.Text.Alphanumeric

/-!
# Values in settings files

A value may be quoted, as a whole or in parts. Between single quotes every character stands for
itself. Elsewhere a backslash takes its meaning from the next character, and a dollar sign begins
a name; what the name stands for among the variables takes its place. Outside quotes a blank ends
the value, and only a comment may follow.

## Main definitions

* `Variables` — names with values.
* `Settings.substitute` — what a name stands for.
* `Settings.value?` — the value that some characters write.
-/
namespace AccessPolicy

/-- Variables with their values. -/
abbrev Variables := Dict String

namespace Settings

/-- What follows `start` in some characters that begin with it. -/
def after? (start written : List Char) : Option (List Char) :=
  if start.isPrefixOf written then some (written.drop start.length) else none

/-- The characters that stand for a name. Each variable is held as its name, an equals sign and
its value, and any part of that in front of an equals sign names what follows. A name that is not
found stands for nothing. -/
def substitute (vars : Variables) (name : List Char) : List Char :=
  let found :=
    vars.entries.findSome? fun e => after? (name ++ ['=']) (e.1.toList ++ '=' :: e.2.toList)
  found.getD []

/-- The character that is written with a backslash in front. -/
def escaped? (c : Char) : Option Char :=
  if c = 'n' then some '\n'
  else if c = '\\' ∨ c = '\x27' ∨ c = '\x22' ∨ c = '$' ∨ c = ' ' then some c
  else none

/-- How the next character of a value is taken. -/
inductive Reading where
  /-- Outside quotes. -/
  | bare
  /-- Between single quotes. -/
  | single
  /-- Between double quotes. -/
  | double
  /-- As escaped, outside quotes or between double ones. -/
  | escape (isDouble : Bool)
  /-- As part of a name, outside quotes or between double ones. -/
  | name (isDouble : Bool) (read : List Char)
  /-- As part of a name in braces, outside quotes or between double ones. -/
  | braced (isDouble : Bool) (read : List Char)
  /-- As part of what follows the value. -/
  | tail

/-- The reading outside quotes or between double ones. -/
def Reading.unescaped (isDouble : Bool) : Reading := if isDouble then double else bare

/-- The value that some characters write, `none` if they are not well formed. A backslash at the
very end stands for nothing. A name without braces consists of letters and digits, and the
character that ends it stands for itself, unless it begins another name. -/
def valueFrom? (vars : Variables) : Reading → List Char → Option (List Char)
  | .bare, [] => some []
  | .escape false, [] => some []
  | .name false read, [] => some (substitute vars read)
  | .tail, [] => some []
  | _, [] => none
  | .bare, c :: rest =>
    if c = '$' then valueFrom? vars (.name false []) rest
    else if c = '\\' then valueFrom? vars (.escape false) rest
    else if c = '\x27' then valueFrom? vars .single rest
    else if c = '\x22' then valueFrom? vars .double rest
    else if c = ' ' ∨ c = '\t' then valueFrom? vars .tail rest
    else (valueFrom? vars .bare rest).map (c :: ·)
  | .single, c :: rest =>
    if c = '\x27' then valueFrom? vars .bare rest
    else (valueFrom? vars .single rest).map (c :: ·)
  | .double, c :: rest =>
    if c = '$' then valueFrom? vars (.name true []) rest
    else if c = '\\' then valueFrom? vars (.escape true) rest
    else if c = '\x22' then valueFrom? vars .bare rest
    else (valueFrom? vars .double rest).map (c :: ·)
  | .escape isDouble, c :: rest =>
    (escaped? c).bind fun e => (valueFrom? vars (.unescaped isDouble) rest).map (e :: ·)
  | .name isDouble read, c :: rest =>
    if Text.isAlphanumeric c then valueFrom? vars (.name isDouble (read ++ [c])) rest
    else if c = '\x7b' ∧ read = [] then valueFrom? vars (.braced isDouble []) rest
    else if c = '$' then
      (valueFrom? vars (.name isDouble []) rest).map (substitute vars read ++ ·)
    else
      (valueFrom? vars (.unescaped isDouble) rest).map
        (substitute vars read ++ c :: ·)
  | .braced isDouble read, c :: rest =>
    if c = '\x7d' then
      (valueFrom? vars (.unescaped isDouble) rest).map (substitute vars read ++ ·)
    else valueFrom? vars (.braced isDouble (read ++ [c])) rest
  | .tail, c :: rest =>
    if c = '#' then some []
    else if c = ' ' ∨ c = '\t' then valueFrom? vars .tail rest
    else none

/-- The value that some characters write. -/
def value? (vars : Variables) (written : List Char) : Option String :=
  (valueFrom? vars .bare written).map String.ofList

end Settings

end AccessPolicy
