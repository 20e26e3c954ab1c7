import AccessPolicy.Json.Reader

/-!
# Taking values out of documents

A decoder takes a value of some kind out of a document or says where and why it cannot. It
looks at the document in the order of the text, and the first thing that is wrong decides.
Containers may be nested up to a limit.

## Main definitions

* `Place` — the path from the root to a document and how many containers may still open.
* `DecodeCause`, `DecodeError` — why a value cannot be taken, and where.
* `Decoder` — a function from a place and a document to a value.
* `Decoder.json`, `Decoder.text`, `Decoder.list`, `Decoder.dict`, … — the decoders.
* `Layout`, `Layout.read` — values written as objects with known keys, or as arrays of their
  fields in a fixed order.
-/
namespace AccessPolicy

/-! ## Places and errors -/

/-- One step of a path. -/
inductive Segment where
  /-- To the value under a key. -/
  | key (k : String)
  /-- To an item of an array. -/
  | index (i : Nat)
  /-- To a member whose key is not known. -/
  | unknown
deriving DecidableEq

/-- The text of a path: keys are joined by points, indices stand in brackets, and the empty
path is a point. -/
def renderPath : List Segment → String
  | [] => "."
  | first :: rest => start first ++ String.join (rest.map follow)
where
  /-- The text of a path's first segment. -/
  start : Segment → String
    | .key k => k
    | .index i => "[" ++ toString i ++ "]"
    | .unknown => "?"
  /-- The text of a later segment. -/
  follow : Segment → String
    | .index i => start (.index i)
    | s => "." ++ start s

/-- Why a value cannot be taken out of a document. -/
inductive DecodeCause where
  /-- The text is malformed or ends too early. -/
  | flawed (flaw : Flaw)
  /-- Too many containers are nested. -/
  | tooDeep
  /-- A value of another kind stands here. -/
  | mistyped
  /-- A key that may occur once occurs again. -/
  | repeatedKey
  /-- The identifier is missing. -/
  | noIdentifier
  /-- The identifier is neither a text nor a number. -/
  | badIdentifier (found : Json)

/-- A value cannot be taken out of a document. -/
structure DecodeError where
  /-- The path to the innermost value that was being taken. -/
  path : List Segment
  /-- Why it cannot be taken. -/
  cause : DecodeCause

/-- A place in a document. -/
structure Place where
  /-- The steps from the root, the last one first. -/
  steps : List Segment
  /-- How many containers may still open inside each other. -/
  levels : Nat

/-- Containers may be nested this deep. -/
def nestingLimit : Nat := 127

namespace Place

/-- The root of a document. -/
def root : Place := ⟨[], nestingLimit⟩

/-- The place at the end of one more step. -/
def child (p : Place) (s : Segment) : Place := { p with steps := s :: p.steps }

/-- An error at a place. -/
def fail {α : Type} (p : Place) (cause : DecodeCause) : Except DecodeError α :=
  .error ⟨p.steps.reverse, cause⟩

/-- Opens the container at a place. -/
def enter (p : Place) : Except DecodeError Place :=
  match p.levels with
  | 0 => p.fail .tooDeep
  | n + 1 => .ok { p with levels := n }

/-- Checks how an array at a place ends. -/
def closeArray (p : Place) : ArrayEnding → Except DecodeError Unit
  | .closed => .ok ()
  | .noSeparator flaw => p.fail (.flawed flaw)
  | .noItem flaw => p.fail (.flawed flaw)
  | .interrupted => p.fail (.flawed .truncated)

/-- Checks how an object at a place ends. -/
def closeObject (p : Place) : ObjectEnding → Except DecodeError Unit
  | .closed => .ok ()
  | .noKey flaw _ => (p.child .unknown).fail (.flawed flaw)
  | .noColon _ flaw => p.fail (.flawed flaw)
  | .interrupted => p.fail (.flawed .truncated)

end Place

/-- A way to take a value out of a document. -/
abbrev Decoder (α : Type) := Place → Document → Except DecodeError α

namespace Decoder

variable {α σ : Type}

/-- The error for a document of another kind than the wanted one. -/
def mismatch (p : Place) : Document → Except DecodeError α
  | .unreadable flaw _ => p.fail (.flawed flaw)
  | _ => p.fail .mistyped

/-! ## Any value -/

mutual

/-- Any value. -/
def json (p : Place) : Document → Except DecodeError Json
  | .null => .ok .null
  | .bool b => .ok (.bool b)
  | .number n => .ok (.number n)
  | .string s => .ok (.string s)
  | .unreadable flaw _ => p.fail (.flawed flaw)
  | .array items ending => do
    let inner ← p.enter
    let items ← jsonItems inner 0 items
    p.closeArray ending
    pure (.array items)
  | .object members ending => do
    let inner ← p.enter
    let fields ← jsonFields inner members
    p.closeObject ending
    pure (.ofFields fields)

/-- Any values, as items of an array from an index on. -/
def jsonItems (p : Place) (i : Nat) : List Document → Except DecodeError (List Json)
  | [] => .ok []
  | d :: rest => do
    let v ← json (p.child (.index i)) d
    let vs ← jsonItems p (i + 1) rest
    pure (v :: vs)

/-- Any values, as fields of an object. -/
def jsonFields (p : Place) :
    List (String × Document) → Except DecodeError (List (String × Json))
  | [] => .ok []
  | (k, d) :: rest => do
    let v ← json (p.child (.key k)) d
    let vs ← jsonFields p rest
    pure ((k, v) :: vs)

end

/-! ## Values of one kind -/

/-- A text. -/
def text : Decoder String
  | _, .string s => .ok s
  | p, d => mismatch p d

/-- A truth value. -/
def bool : Decoder Bool
  | _, .bool b => .ok b
  | p, d => mismatch p d

/-- A value that may be absent, written as `null`. -/
def optional (f : Decoder α) : Decoder (Option α)
  | _, .null => .ok none
  | p, d => some <$> f p d

/-- A value that has a default, written as `null`. -/
def orDefault (default : α) (f : Decoder α) : Decoder α
  | _, .null => .ok default
  | p, d => f p d

/-- The items of an array, from an index on. -/
def items (f : Decoder α) (p : Place) (i : Nat) : List Document → Except DecodeError (List α)
  | [] => .ok []
  | d :: rest => do
    let v ← f (p.child (.index i)) d
    let vs ← items f p (i + 1) rest
    pure (v :: vs)

/-- An array. -/
def list (f : Decoder α) : Decoder (List α)
  | p, .array ds ending => do
    let inner ← p.enter
    let vs ← items f inner 0 ds
    p.closeArray ending
    pure vs
  | p, d => mismatch p d

/-- The members of an object. -/
def members (f : Decoder α) (p : Place) :
    List (String × Document) → Except DecodeError (List (String × α))
  | [] => .ok []
  | (k, d) :: rest => do
    let v ← f (p.child (.key k)) d
    let vs ← members f p rest
    pure ((k, v) :: vs)

/-- An object with values of one kind under keys of any name. A repeated key counts where it
stands last. -/
def dict (f : Decoder α) : Decoder (Dict α)
  | p, .object ds ending => do
    let inner ← p.enter
    let vs ← members f inner ds
    p.closeObject ending
    pure (Dict.ofList vs)
  | p, d => mismatch p d

end Decoder

/-! ## Values with known fields -/

/-- A field of a value that is put together in a draft of type `σ`. -/
structure Field (σ : Type) where
  /-- The key under which the field is written. -/
  name : String
  /-- Whether the draft has the field already. -/
  isSet : σ → Bool
  /-- Takes the field out of a document and into the draft. -/
  read : σ → Decoder σ

/-- A field with a decoder and an optional slot of the draft. -/
def Field.of {α σ : Type} (name : String) (get : σ → Option α) (set : σ → α → σ)
    (f : Decoder α) : Field σ where
  name
  isSet draft := (get draft).isSome
  read draft p d := set draft <$> f p d

/-- The fields of a value, in the order in which they stand when no keys are written. -/
abbrev Layout (σ : Type) := List (Field σ)

namespace Layout

variable {σ : Type}

/-- The field that is written under a key. -/
def find? (l : Layout σ) (key : String) : Option (Field σ) := List.find? (·.name = key) l

/-- Takes the members of the object at `p` into a draft; `inner` is the place inside it. An
unknown key is passed over together with its value. -/
def readMembers (l : Layout σ) (p inner : Place) (draft : σ) :
    List (String × Document) → Except DecodeError σ
  | [] => .ok draft
  | (k, d) :: rest =>
    match l.find? k with
    | none =>
      match d.passing with
      | none => readMembers l p inner draft rest
      | some flaw => (inner.child (.key k)).fail (.flawed flaw)
    | some f => do
      if f.isSet draft then p.fail .repeatedKey
      else
        let draft ← f.read draft (inner.child (.key k)) d
        readMembers l p inner draft rest

/-- Checks how the object at `p` ends. A key counts as met before its colon is looked for. -/
def closeObject (l : Layout σ) (p : Place) (draft : σ) (ending : ObjectEnding) :
    Except DecodeError Unit :=
  match ending with
  | .noColon k _ =>
    if (l.find? k).any (·.isSet draft) then p.fail .repeatedKey else p.closeObject ending
  | _ => p.closeObject ending

/-- Takes the items of the array at `p` into a draft, one field after the other. Fields that
are not written are left out; nothing may follow the last field. -/
def readItems (p inner : Place) (ending : ArrayEnding) (i : Nat) (draft : σ) :
    Layout σ → List Document → Except DecodeError σ
  | [], [] =>
    match ending with
    | .noItem _ => p.fail (.flawed .malformed)
    | ending => do p.closeArray ending; pure draft
  | [], _ :: _ => p.fail (.flawed .malformed)
  | _ :: _, [] => do p.closeArray ending; pure draft
  | f :: fs, d :: ds => do
    let draft ← f.read draft (inner.child (.index i)) d
    readItems p inner ending (i + 1) draft fs ds

/-- Takes a value with known fields into a draft. -/
def read (l : Layout σ) (blank : σ) : Decoder σ
  | p, .object ds ending => do
    let inner ← p.enter
    let draft ← l.readMembers p inner blank ds
    l.closeObject p draft ending
    pure draft
  | p, .array ds ending => do
    let inner ← p.enter
    readItems p inner ending 0 blank l ds
  | p, d => Decoder.mismatch p d

end Layout

end AccessPolicy
