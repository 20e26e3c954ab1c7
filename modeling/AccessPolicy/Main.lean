import AccessPolicy.CommandLine.Run

/-!
# The program

Reads the files that a command line names, the settings files and the environment, and prints the
effect of the command line. The directory in which the program stands counts as the one in which it
was built.
-/
open AccessPolicy

/-! ## Files -/

/-- What stands at a path. -/
inductive Finding where
  /-- No file. -/
  | nothing
  /-- Something that cannot be read. -/
  | unreadable
  /-- A file. -/
  | bytes (b : ByteArray)

namespace Finding

/-- What stands at a path. -/
def ofPath (path : String) : IO Finding := do
  try return bytes (← IO.FS.readBinFile path)
  catch
    | .noFileOrDirectory .. => return nothing
    | .inappropriateType .. => return nothing
    | _ => return unreadable

/-- Whether it is a file, or may be one. -/
def isFile : Finding → Bool
  | nothing => false
  | _ => true

/-- The text of a file. -/
def text? : Finding → Option String
  | bytes b => String.fromUTF8? b
  | _ => none

/-- The lines of a file in front of the first one that is no text. -/
def fragment : Finding → String
  | bytes b =>
    let lines := b.toList.zipIdx.reverse.findSome? fun (byte, i) =>
      if byte = 10 then String.fromUTF8? (b.extract 0 (i + 1)) else none
    lines.getD ""
  | _ => ""

end Finding

/-! ## The environment -/

/-- The variables of the environment with the given names. -/
def environmentOf (names : List String) : IO Variables := do
  let found ← names.filterMapM fun name => do return (← IO.getEnv name).map fun v => (name, v)
  return Dict.ofList found

/-! ## Printing -/

/-- The help page of the program, or of a command. -/
def helpPage : Option String → String
  | none => "Usage: records-authz [--mode MODE] check|fields|records|where|select|help [OPTIONS]\n"
  | some name =>
    let options := ["principal", "action", "entity"] ++ (Arguments.commandOptions? name).getD []
    "Usage: records-authz " ++ name ++ String.join (options.map (" [--" ++ · ++ " VALUE]")) ++ "\n"

/-- Writes the report of a failure. -/
def printFailure (f : Failure) : IO Unit := do
  IO.eprintln ("Error: " ++ f.activity.getD f.fault.message)
  if f.activity.isSome then
    IO.eprintln ("\nCaused by:\n    " ++ f.fault.message)

/-- The files that the command of a command line reads. -/
def pathsOf (arguments : List String) : List String :=
  match Arguments.ofList arguments with
  | .run i => i.command.paths
  | _ => []

def main (arguments : List String) : IO UInt32 := do
  let directory := toString (← IO.currentDir)
  let outside : Surroundings :=
    { files := fun _ => none
      environment := .empty
      depth := (directory.splitOn "/").countP (!·.isEmpty)
      home := toString (← IO.appDir)
      helpPage }
  let settings := outside.homeSettings :: outside.settingsPaths
  let findings ← (settings ++ pathsOf arguments).mapM fun path => do
    return (path, ← Finding.ofPath path)
  let finding (path : String) := (findings.lookup path).getD .nothing
  let names := settings.flatMap fun path =>
    Settings.mentioned ((finding path).text?.getD (finding path).fragment)
  let surroundings : Surroundings :=
    { outside with
      files := fun path => (finding path).text?
      environment := ← environmentOf (modeVariable :: names)
      isFile := fun path => (finding path).isFile
      fragment := fun path => (finding path).fragment }
  let outcome := CommandLine.run surroundings arguments
  match outcome with
  | .printed text => IO.print text
  | .failed f => printFailure f
  | .misused => IO.eprintln "error: the command line is not well formed"
  | .aborted => IO.eprintln "error: a variable cannot be set"
  return outcome.exitCode.toUInt32
