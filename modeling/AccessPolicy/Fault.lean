import AccessPolicy.Json.Decoder
import AccessPolicy.Json.Printer

/-!
# Faults

Why a request, a snapshot or a setting is refused. A fault is either a decision of the policy,
which a caller reports to the user, or something that keeps a decision from being taken.

## Main definitions

* `Fault` — the causes.
* `Fault.message` — their texts.
* `Fault.isDenial` — whether the policy has decided.
* `DecodeCause.category`, `DecodeCause.detail?` — what is wrong with a snapshot.
-/
namespace AccessPolicy

/-- A reason for refusing. -/
inductive Fault where
  /-- The policy forbids something. -/
  | forbidden (what : String)
  /-- The policy forbids writing some fields of an entity type. -/
  | fieldsNotWritable (entityType : String) (fields : List String)
  /-- A file does not exist or does not hold text. -/
  | unreadableFile (path : String)
  /-- The text of a file does not hold what it should. -/
  | invalidSnapshot (path : String) (error : DecodeError)
  /-- A setting has no meaning. -/
  | configuration (message : String)

/-- The three kinds of errors in a snapshot. -/
inductive DecodeCategory where
  /-- The text is not JSON, or its containers are nested too deep. -/
  | malformed
  /-- The text ends too early. -/
  | truncated
  /-- The text is JSON, but not of the wanted form. -/
  | mistyped
deriving DecidableEq

/-- The kind of an error. -/
def DecodeCause.category : DecodeCause → DecodeCategory
  | flawed .malformed => .malformed
  | flawed .truncated => .truncated
  | tooDeep => .malformed
  | mistyped => .mistyped
  | repeatedKey => .mistyped
  | noIdentifier => .mistyped
  | badIdentifier _ => .mistyped

/-- What is said about an identifier of the wrong kind. -/
def DecodeCause.detail? : DecodeCause → Option String
  | badIdentifier found =>
    some ("invalid type: " ++ found.compact ++ ", expected a string or number identifier")
  | _ => none

namespace Fault

/-- The text of a fault. -/
def message : Fault → String
  | forbidden what => "forbidden: " ++ what
  | fieldsNotWritable entityType fields =>
    "fields not writable on " ++ entityType ++ ": " ++ ", ".intercalate fields
  | unreadableFile path => "failed to read " ++ path
  | invalidSnapshot path error =>
    "invalid snapshot " ++ path ++ " at \x60" ++ renderPath error.path ++ "\x60"
  | configuration message => "configuration error: " ++ message

/-- Whether the fault is a decision of the policy. -/
def isDenial : Fault → Bool
  | forbidden _ => true
  | fieldsNotWritable _ _ => true
  | _ => false

end Fault

end AccessPolicy
