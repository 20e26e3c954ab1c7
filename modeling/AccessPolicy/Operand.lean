import AccessPolicy.Json.Basic
import AccessPolicy.Text.Lower

/-!
# Operands

The expected value of a condition is either given literally or taken from the context of the
request, which holds the data of the principal. In policy data a text of the form dollar sign,
opening brace, path, closing brace is a reference into the context; the keys of the path are
joined by points.

## Main definitions

* `Operand` — a literal, a reference or a list of operands.
* `Operand.ofJson`, `Operand.toJson` — the form in policy data.
* `Operand.resolve` — the expected value in a context.
-/
namespace AccessPolicy

/-- The expected value of a condition. -/
inductive Operand where
  /-- A value that stands for itself, whatever it looks like. -/
  | literal (v : Json)
  /-- The value at a path in the context. -/
  | reference (path : List String)
  /-- The array of the values of operands. -/
  | list (items : List Operand)
deriving Inhabited

namespace Operand

/-- A reference to a path whose keys are joined by points. -/
def ofPath (path : String) : Operand := reference (Text.split '.' path)

/-- The path inside a text that has the form of a reference. -/
def templatePath? (s : String) : Option String :=
  match s.toList with
  | '$' :: '\x7b' :: rest =>
    if rest.getLast? = some '\x7d' then some (String.ofList rest.dropLast) else none
  | _ => none

/-- The text of a reference. -/
def template (path : List String) : String := "$\x7b" ++ ".".intercalate path ++ "\x7d"

/-! ## The form in policy data -/

mutual

/-- The operand written by a value. -/
def ofJson : Json → Operand
  | .string s =>
    match templatePath? s with
    | some path => ofPath path
    | none => literal (.string s)
  | .array items => list (ofItems items)
  | v => literal v

/-- The operands written by the items of an array. -/
def ofItems : List Json → List Operand
  | [] => []
  | v :: rest => ofJson v :: ofItems rest

end

mutual

/-- The value that writes an operand. -/
def toJson : Operand → Json
  | literal v => v
  | reference path => .string (template path)
  | list items => .array (toItems items)

/-- The values that write operands. -/
def toItems : List Operand → List Json
  | [] => []
  | o :: rest => toJson o :: toItems rest

end

/-! ## Resolution -/

mutual

/-- The expected value in a context; `none` if a reference leads nowhere. -/
def resolve (context : Json) : Operand → Option Json
  | literal v => some v
  | reference path => context.at? path
  | list items => (resolveItems context items).map .array

/-- The expected values of all operands, or `none` if one of them has none. -/
def resolveItems (context : Json) : List Operand → Option (List Json)
  | [] => some []
  | o :: rest => do
    let v ← resolve context o
    let vs ← resolveItems context rest
    pure (v :: vs)

end

end Operand

end AccessPolicy
