import AccessPolicy.Json.Token

/-!
# Reading a text as a document

A document grows token by token. The state of reading is the list of containers that are
open around the current place together with what may stand at that place. A token either
leads to the next state or settles the document: when the outermost value is complete, and
when the token fits nowhere. So reading is one pass over the tokens, and what follows the
first complete value is never looked at.

## Main definitions

* `Reader.State` — the open containers and what may follow.
* `Reader.step` — the effect of one token, or of the end of the text.
* `Document.ofTokens`, `Document.ofText` — the document at the start of a text.
-/
namespace AccessPolicy

namespace Reader

/-- An object that is still open. -/
structure OpenObject where
  /-- Its members so far, the last one first. -/
  members : List (String × Document)
  /-- The flaw of a key that can only be passed over. Later members do not count. -/
  spoiled : Option Flaw

/-- A container around the current place. -/
inductive Frame where
  /-- An array with its items so far, the last one first. -/
  | array (items : List Document)
  /-- An object and the key of the member that is being read, if that key can be read. -/
  | object (o : OpenObject) (key : Option String)

/-- What may stand at the current place, inside the containers `around` it. -/
inductive State where
  /-- A value. -/
  | value (around : List Frame)
  /-- An item of an array; in front of the first one the array may end. -/
  | item (first : Bool) (items : List Document) (around : List Frame)
  /-- A comma or the end of an array. -/
  | afterItem (items : List Document) (around : List Frame)
  /-- A key; in front of the first one the object may end. -/
  | key (first : Bool) (o : OpenObject) (around : List Frame)
  /-- The colon after a key. -/
  | colon (o : OpenObject) (key : Option String) (around : List Frame)
  /-- A comma or the end of an object. -/
  | afterMember (o : OpenObject) (around : List Frame)

/-- The effect of a token. -/
inductive Outcome where
  /-- Reading goes on. -/
  | more (s : State)
  /-- The outermost value is complete. -/
  | done (d : Document)
  /-- Reading stops for a flaw. -/
  | stopped (d : Document)

namespace OpenObject

/-- An object without members. -/
def empty : OpenObject := ⟨[], none⟩

/-- Adds a member, unless an earlier key spoils the object. -/
def add (o : OpenObject) (key : Option String) (d : Document) : OpenObject :=
  match o.spoiled, key with
  | none, some k => { o with members := (k, d) :: o.members }
  | _, _ => o

/-- Marks the object as spoiled by a key. The first such key counts. -/
def spoil (o : OpenObject) (flaw : Flaw) : OpenObject :=
  { o with spoiled := o.spoiled.or (some flaw) }

/-- The document of the object when it ends in some way. A spoiled object ends at the key
that spoils it; `passing` is the flaw met after that key. -/
def close (o : OpenObject) (ending : ObjectEnding) (passing : Option Flaw) : Document :=
  .object o.members.reverse <|
    match o.spoiled with
    | none => ending
    | some flaw => .noKey flaw passing

end OpenObject

/-- Puts a complete document into the innermost open container. -/
def put (d : Document) : List Frame → Outcome
  | [] => .done d
  | .array items :: around => .more (.afterItem (d :: items) around)
  | .object o key :: around => .more (.afterMember (o.add key d) around)

/-- Ends all open containers around a document at which reading stops for a flaw. -/
def interrupt (d : Document) (flaw : Flaw) : List Frame → Document
  | [] => d
  | .array items :: around => interrupt (.array (d :: items).reverse .interrupted) flaw around
  | .object o key :: around =>
    interrupt ((o.add key d).close .interrupted (some flaw)) flaw around

/-- Reading stops at a document for a flaw. -/
def stop (d : Document) (flaw : Flaw) (around : List Frame) : Outcome :=
  .stopped (interrupt d flaw around)

/-- The effect of a token where a value may begin. -/
def startValue (around : List Frame) : Option Token → Outcome
  | none => stop (.unreadable .truncated (some .truncated)) .truncated around
  | some .null => put .null around
  | some (.bool b) => put (.bool b) around
  | some (.number (some n)) => put (.number n) around
  | some (.number none) => put (.unreadable .malformed none) around
  | some (.string (.ok s)) => put (.string s) around
  | some (.string (.error flaw)) => put (.unreadable flaw none) around
  | some .openBracket => .more (.item true [] around)
  | some .openBrace => .more (.key true .empty around)
  | some (.brokenString reading passing) =>
    stop (.unreadable reading (some passing)) passing around
  | some (.broken reading passing) => stop (.unreadable reading (some passing)) passing around
  | some _ => stop (.unreadable .malformed (some .malformed)) .malformed around

/-- An array stops where it should end or go on. -/
def stopArray (items : List Document) (ending : ArrayEnding) (flaw : Flaw)
    (around : List Frame) : Outcome :=
  stop (.array items.reverse ending) flaw around

/-- An object stops where a key, a comma or its end should stand. -/
def stopObject (o : OpenObject) (reading passing : Flaw) (around : List Frame) : Outcome :=
  stop (o.close (.noKey reading (some passing)) (some passing)) passing around

/-- The flaw of a token, or of the end of the text, that fits nowhere. -/
def misfit : Option Token → Flaw
  | none => .truncated
  | some _ => .malformed

/-- The effect of one token, or of the end of the text. -/
def step : State → Option Token → Outcome
  | .value around, t => startValue around t
  | .item first items around, t =>
    match t with
    | some .closeBracket =>
      if first then put (.array [] .closed) around
      else stopArray items (.noItem .malformed) .malformed around
    | none =>
      stopArray items (if first then .noSeparator .truncated else .noItem .truncated)
        .truncated around
    | t => startValue (.array items :: around) t
  | .afterItem items around, t =>
    match t with
    | some .comma => .more (.item false items around)
    | some .closeBracket => put (.array items.reverse .closed) around
    | t => stopArray items (.noSeparator (misfit t)) (misfit t) around
  | .key first o around, t =>
    match t with
    | some (.string (.ok k)) => .more (.colon o (some k) around)
    | some (.string (.error flaw)) => .more (.colon (o.spoil flaw) none around)
    | some (.brokenString reading passing) => stopObject o reading passing around
    | some .closeBrace =>
      if first then put (o.close .closed none) around
      else stopObject o .malformed .malformed around
    | t => stopObject o (misfit t) (misfit t) around
  | .colon o key around, t =>
    match t with
    | some .colon => .more (.value (.object o key :: around))
    | t =>
      stop (o.close (.noColon (key.getD "") (misfit t)) (some (misfit t))) (misfit t) around
  | .afterMember o around, t =>
    match t with
    | some .comma => .more (.key false o around)
    | some .closeBrace => put (o.close .closed none) around
    | t => stopObject o (misfit t) (misfit t) around

/-- The document that tokens settle from a state on. The end of the text always settles one;
`Document.null` stands for the case that it does not. -/
def run (s : State) : List Token → Document
  | [] =>
    match step s none with
    | .more _ => .null
    | .done d => d
    | .stopped d => d
  | t :: ts =>
    match step s (some t) with
    | .more s => run s ts
    | .done d => d
    | .stopped d => d

end Reader

/-- The document at the start of a list of tokens. -/
def Document.ofTokens (tokens : List Token) : Document := Reader.run (.value []) tokens

/-- The document at the start of a text. -/
def Document.ofText (text : String) : Document := .ofTokens (Token.ofText text.toList)

end AccessPolicy
