import AccessPolicy.CommandLine.Arguments
import AccessPolicy.Request
import AccessPolicy.Settings.Basic
import AccessPolicy.Snapshot

/-!
# Running commands

A command loads a principal, decides about a request and prints a value. Its only inputs besides
the command line are the texts of files and the variables of the environment, which settings files
may add to. A settings file is looked for in the current directory and the ones around it; the one
in the directory in which the program was built stands in if that fails.

## Main definitions

* `Surroundings` — the inputs besides the command line.
* `Failure` — a fault, and what was being done when it arose.
* `Command.report` — the value that a command prints.
* `Outcome`, `CommandLine.run` — the effect of a command line.
-/
namespace AccessPolicy

/-! ## Surroundings -/

/-- What a command line can look at. -/
structure Surroundings where
  /-- The texts of files. -/
  files : Files
  /-- The variables of the environment. -/
  environment : Variables
  /-- How many directories lie around the current one, one inside the other. -/
  depth : Nat
  /-- The directory in which the program was built. -/
  home : String
  /-- The help pages of the program and of its commands. -/
  helpPage : Option String → String
  /-- Whether a file stands at a path, or something that cannot be looked at. -/
  isFile : String → Bool := fun path => (files path).isSome
  /-- The lines of a file in front of the first one that is no text. A file that cannot be read has
  none. -/
  fragment : String → String := fun _ => ""

/-- The name of the variable that sets the mode. -/
def modeVariable : String := "AUTHZ_MODE"

/-- The name of a file that sets variables which the environment lacks. -/
def settingsFile : String := ".env"

namespace Surroundings

/-- The paths at which a settings file is looked for: in the current directory, and then in those
around it. -/
def settingsPaths (s : Surroundings) : List String :=
  (List.range (s.depth + 1)).map fun n => String.join (List.replicate n "../") ++ settingsFile

/-- The path of the settings file to fall back on. -/
def homeSettings (s : Surroundings) : String := s.home ++ "/" ++ settingsFile

/-- The effect of the settings file at a path on some variables. -/
def loadFile (s : Surroundings) (vars : Variables) (path : String) : Settings.Loading :=
  match s.files path with
  | some text => Settings.load vars text
  | none => (Settings.load vars (s.fragment path)).interrupted

/-- The effect of the nearest settings file on the variables of the environment. -/
def loadNearest (s : Surroundings) : Settings.Loading :=
  match s.settingsPaths.find? s.isFile with
  | some path => s.loadFile s.environment path
  | none => .stopped s.environment

/-- The variables of the environment and those of the settings files, `none` if a file sets one to
a value that no variable can hold. The nearest file counts; only if there is none, or not all of its
statements take effect, the file to fall back on adds to what has been set. -/
def settings? (s : Surroundings) : Option Variables :=
  match s.loadNearest with
  | .completed vars => some vars
  | .stopped vars => (s.loadFile vars s.homeSettings).variables?
  | .aborted => none

end Surroundings

/-! ## Failures -/

/-- A fault, and what was being done when it arose, if that is said. -/
structure Failure where
  /-- What was being done. -/
  activity : Option String
  /-- What went wrong. -/
  fault : Fault

namespace Failure

/-- A fault that speaks for itself. -/
def of (fault : Fault) : Failure := ⟨none, fault⟩

/-- The first line of a text. -/
def firstLine (s : String) : String := String.ofList (s.toList.takeWhile (· ≠ '\n'))

/-- The first line of the report of a failure. -/
def headline (f : Failure) : String := firstLine (f.activity.getD f.fault.message)

/-- The first line of the cause, if the report names what was being done before it. -/
def cause? (f : Failure) : Option String := f.activity.map fun _ => firstLine f.fault.message

end Failure

/-- Lets a fault speak for itself. -/
def plainly {α : Type} (result : Except Fault α) : Except Failure α := result.mapError Failure.of

/-! ## Commands -/

/-- The request of a target whose principal is loaded from its file. -/
def Target.load (t : Target) (files : Files) : Except Failure Request :=
  match Snapshot.loadPrincipal files t.principal with
  | .ok principal => .ok ⟨principal, t.action, t.entityType⟩
  | .error fault => .error ⟨some ("failed to load principal " ++ t.principal), fault⟩

/-- The value of a list of records. -/
def recordsJson (records : List Record) : Json := .array (records.map Json.ofDict)

/-- The decisions about a field. -/
def fieldReport (r : Request) (field : String) : Json :=
  .ofFields [("name", .string field), ("accessible", .bool (r.seesField field))]

/-- The decisions about a record. -/
def recordReport (r : Request) (record : Record) : Json :=
  .ofFields
    [("accessible", .bool (r.seesRecord record)), ("visible", .ofDict (r.project record))]

/-- An optional entry of a report. -/
def optionalEntry (key : String) (value : Option Json) : List (String × Json) :=
  match value with
  | none => []
  | some v => [(key, v)]

/-- The decisions about the action, and about a field and records if they are given. -/
def checkReport (r : Request) (field : Option String) (records : Option (List Record)) : Json :=
  .ofFields <|
    [("can", .bool r.isAllowed)] ++
    optionalEntry "field" (field.map (fieldReport r)) ++
    optionalEntry "records" (records.map fun rs => .array (rs.map (recordReport r)))

/-- The value of a selection of fields. -/
def selectionJson (names : NameSet) : Json := .ofDict (names.map fun _ _ => .bool true)

/-- The value that a command prints. Only the first command has a gate in front of it, which it
passes before it looks at any records. -/
def Command.report (files : Files) (mode : Mode) : Command → Except Failure Json
  | check target field path => do
    let r ← target.load files
    plainly (r.require mode)
    match path with
    | none => pure (checkReport r field none)
    | some path => do
      let records ← plainly (Snapshot.loadRecords files path)
      pure (checkReport r field (some records))
  | fields target path => do
    let r ← target.load files
    let records ← plainly (Snapshot.loadRecords files path)
    pure (recordsJson (r.projectAll records))
  | records target path => do
    let r ← target.load files
    let records ← plainly (Snapshot.loadRecords files path)
    pure (recordsJson (r.projectAll (r.filterRecords records)))
  | query target => do
    let r ← target.load files
    pure r.predicate.toJson
  | select target schema => do
    let r ← target.load files
    pure (selectionJson (r.selection schema))

/-- The files that a command reads. -/
def Command.paths : Command → List String
  | check target _ path => target.principal :: path.toList
  | fields target path => [target.principal, path]
  | records target path => [target.principal, path]
  | query target => [target.principal]
  | select target _ => [target.principal]

/-! ## Command lines -/

/-- The effect of a command line. -/
inductive Outcome where
  /-- A text is printed. -/
  | printed (text : String)
  /-- Nothing is printed but the report of a failure. -/
  | failed (f : Failure)
  /-- The command line is not well formed. -/
  | misused
  /-- The settings cannot take effect, and nothing is done. -/
  | aborted

/-- The number by which the caller tells the effects apart. -/
def Outcome.exitCode : Outcome → Nat
  | printed _ => 0
  | failed _ => 1
  | misused => 2
  | aborted => 101

namespace CommandLine

/-- The name and the version of the program. -/
def versionLine : String := "records-authz 0.1.0\n"

/-- The mode of an invocation: the one given on the command line, or that of the variables. -/
def mode (vars : Variables) (given : Option String) : Except Failure Mode :=
  match given with
  | some name => plainly (Mode.parse name)
  | none => .ok (.ofVariable (vars.get? modeVariable))

/-- The value that an invocation prints. -/
def report (files : Files) (vars : Variables) (i : Invocation) : Except Failure Json := do
  i.command.report files (← mode vars i.mode)

/-- The effect of a command line. The settings take effect before the arguments are looked at. -/
def run (s : Surroundings) (arguments : List String) : Outcome :=
  match s.settings? with
  | none => .aborted
  | some vars =>
    match Arguments.ofList arguments with
    | .misuse => .misused
    | .version => .printed versionLine
    | .help command => .printed (s.helpPage command)
    | .run i =>
      match report s.files vars i with
      | .ok v => .printed (v.indented ++ "\n")
      | .error f => .failed f

end CommandLine

end AccessPolicy
