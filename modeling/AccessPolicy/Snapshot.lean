import AccessPolicy.Fault
import AccessPolicy.Principal

/-!
# Snapshots

Principals and records are loaded from files with JSON text. Only the first value in a file is
looked at.

## Main definitions

* `Files` — the texts of files by their paths.
* `Snapshot.decode` — takes a value out of a text.
* `Snapshot.loadPrincipal`, `Snapshot.loadRecords` — load a file.
-/
namespace AccessPolicy

/-- The texts of files. A file that does not exist, or whose bytes are no text, has none. -/
abbrev Files := String → Option String

namespace Snapshot

/-- Takes a value out of the text of a file. -/
def decode {α : Type} (f : Decoder α) (path text : String) : Except Fault α :=
  match f .root (.ofText text) with
  | .ok v => .ok v
  | .error e => .error (.invalidSnapshot path e)

/-- The text of a file. -/
def read (files : Files) (path : String) : Except Fault String :=
  match files path with
  | some text => .ok text
  | none => .error (.unreadableFile path)

/-- The principal in a file. -/
def loadPrincipal (files : Files) (path : String) : Except Fault Principal := do
  decode Principal.decoder path (← read files path)

/-- The records written by a value: an object is one record, and an array lists records. -/
def records? : Json → Option (List Record)
  | .object fields => some [Dict.ofList fields]
  | .array items => items.mapM Json.record?
  | _ => none

/-- Records inside a document. The document is read whole before its form is looked at. -/
def recordsDecoder : Decoder (List Record) := fun p d => do
  match records? (← Decoder.json p d) with
  | some records => pure records
  | none => p.fail .mistyped

/-- The records in a file. -/
def loadRecords (files : Files) (path : String) : Except Fault (List Record) := do
  decode recordsDecoder path (← read files path)

end Snapshot

end AccessPolicy
