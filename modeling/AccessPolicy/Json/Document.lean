import AccessPolicy.Json.Basic

/-!
# Documents

A document is what stands in a text that should hold JSON: a tree that also says where and
how the text stops being JSON. Reading a text never fails. Whether a document is good enough
is decided by whoever takes a value out of it, since a place that is merely passed over may
hold what a place that is read may not.

## Main definitions

* `Flaw` — a text is malformed, or it ends too early.
* `Document` — the tree.
* `Document.passing` — the flaw met by passing over a document without reading it.
* `Document.ofJson` — the document of a value.
-/
namespace AccessPolicy

/-- What is wrong with a text at the place where reading stops. -/
inductive Flaw where
  /-- Something else had to stand here. -/
  | malformed
  /-- Something had to follow, but the text ends. -/
  | truncated
deriving DecidableEq

/-- How the items of an array end. -/
inductive ArrayEnding where
  /-- By the closing bracket. -/
  | closed
  /-- Where a comma or the closing bracket had to follow. -/
  | noSeparator (flaw : Flaw)
  /-- After a comma, where an item had to follow. -/
  | noItem (flaw : Flaw)
  /-- Inside the last item. -/
  | interrupted
deriving DecidableEq

/-- How the members of an object end. -/
inductive ObjectEnding where
  /-- By the closing brace. -/
  | closed
  /-- Where a key, a comma or the closing brace had to follow. A key that is malformed only
  in what its escapes denote can still be passed over: `passing` is the flaw met in the rest
  of the object, if there is one. -/
  | noKey (reading : Flaw) (passing : Option Flaw)
  /-- After a key, where a colon had to follow. -/
  | noColon (key : String) (flaw : Flaw)
  /-- Inside the last member. -/
  | interrupted
deriving DecidableEq

/-- A tree of what stands in a text. -/
inductive Document where
  | null
  | bool (b : Bool)
  | number (n : Number)
  | string (s : String)
  /-- No value can be read here. A number that is too large, or a string whose escapes denote
  no text, can still be passed over: then `passing` is `none`. -/
  | unreadable (reading : Flaw) (passing : Option Flaw)
  | array (items : List Document) (ending : ArrayEnding)
  | object (members : List (String × Document)) (ending : ObjectEnding)
deriving Inhabited

/-! ## Passing over -/

/-- The flaw met where an array ends. -/
def ArrayEnding.passing : ArrayEnding → Option Flaw
  | closed | interrupted => none
  | noSeparator flaw | noItem flaw => some flaw

/-- The flaw met where an object ends. -/
def ObjectEnding.passing : ObjectEnding → Option Flaw
  | closed | interrupted => none
  | noKey _ passing => passing
  | noColon _ flaw => some flaw

namespace Document

mutual

/-- The flaw met by passing over a document. -/
def passing : Document → Option Flaw
  | unreadable _ flaw => flaw
  | array items ending => (passingItems items).or ending.passing
  | object members ending => (passingMembers members).or ending.passing
  | _ => none

/-- The first flaw met by passing over items. -/
def passingItems : List Document → Option Flaw
  | [] => none
  | d :: rest => (passing d).or (passingItems rest)

/-- The first flaw met by passing over members. -/
def passingMembers : List (String × Document) → Option Flaw
  | [] => none
  | (_, d) :: rest => (passing d).or (passingMembers rest)

end

/-! ## The document of a value -/

mutual

/-- The document that a written value reads as. -/
def ofJson : Json → Document
  | .null => null
  | .bool b => bool b
  | .number n => number n
  | .string s => string s
  | .array items => array (ofItems items) .closed
  | .object fields => object (ofFields fields) .closed

/-- The documents of the items of an array. -/
def ofItems : List Json → List Document
  | [] => []
  | v :: rest => ofJson v :: ofItems rest

/-- The documents of the fields of an object. -/
def ofFields : List (String × Json) → List (String × Document)
  | [] => []
  | (k, v) :: rest => (k, ofJson v) :: ofFields rest

end

end Document

end AccessPolicy
