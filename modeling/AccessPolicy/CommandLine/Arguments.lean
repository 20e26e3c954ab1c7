import AccessPolicy.Text.Lower

/-!
# Command lines

A command line names a command, the request that it is about, and the files to work on. Options
may stand in any order after the command, each with its value behind it or after an equals sign.
The mode of enforcement may also be given in front of the command.

A command line may ask for the version of the program, in place of a command, or for help, in place
of a command or about one. Then nothing that stands behind is looked at.

## Main definitions

* `Command` — the commands with their arguments.
* `Invocation` — a command and the mode given on the command line.
* `Arguments.ofList` — what the arguments of a command line ask for.
-/
namespace AccessPolicy

/-- What every command is about. -/
structure Target where
  /-- The file with the principal. -/
  principal : String
  /-- The action. -/
  action : String
  /-- The entity type. -/
  entityType : String
deriving DecidableEq

/-- A command. -/
inductive Command where
  /-- Print the decisions about the action, a field and the records of a file. -/
  | check (target : Target) (field : Option String) (records : Option String)
  /-- Print the records of a file without the fields that may not be seen. -/
  | fields (target : Target) (records : String)
  /-- Print the records of a file that may be seen, without the fields that may not. -/
  | records (target : Target) (records : String)
  /-- Print the query predicate. -/
  | query (target : Target)
  /-- Print the fields of a schema to ask a store for. -/
  | select (target : Target) (schema : List String)
deriving DecidableEq

/-- A command and the mode given on the command line. -/
structure Invocation where
  /-- The name of a mode, if one is given. -/
  mode : Option String
  /-- The command. -/
  command : Command
deriving DecidableEq

/-- What a command line asks for. -/
inductive Arguments where
  /-- It is not well formed. -/
  | misuse
  /-- The name and the version of the program. -/
  | version
  /-- The help page of the program, or of a command. -/
  | help (command : Option String)
  /-- A command. -/
  | run (i : Invocation)
deriving DecidableEq

namespace Arguments

/-- Options in the order in which they are given. -/
abbrev Options := List (String × String)

/-- Splits an option at its first equals sign. -/
def splitEquals : List Char → List Char × Option (List Char)
  | [] => ([], none)
  | '=' :: rest => ([], some rest)
  | c :: rest =>
    let (name, value) := splitEquals rest
    (c :: name, value)

/-- The name of an option and the value behind its equals sign, if there is one. -/
def option? (argument : String) : Option (String × Option String) :=
  match argument.toList with
  | '-' :: '-' :: rest =>
    let (name, value) := splitEquals rest
    some (String.ofList name, value.map String.ofList)
  | _ => none

/-- Whether an argument can stand as the value of an option: it does not look like an option
itself. -/
def isValue (argument : String) : Bool :=
  match argument.toList with
  | ['-'] => true
  | '-' :: _ => false
  | _ => true

/-- The options with the given names at the start of some arguments, and the arguments after
them; `none` if an option lacks its value. -/
def takeOptions (names : List String) : List String → Option (Options × List String)
  | [] => some ([], [])
  | argument :: rest =>
    match option? argument with
    | none => some ([], argument :: rest)
    | some (name, value) =>
      if !names.contains name then some ([], argument :: rest)
      else
        match value, rest with
        | some value, rest => do
          let (options, rest) ← takeOptions names rest
          pure ((name, value) :: options, rest)
        | none, value :: rest =>
          if isValue value then do
            let (options, rest) ← takeOptions names rest
            pure ((name, value) :: options, rest)
          else none
        | none, [] => none

/-- The values of an option, in the order in which they are given. -/
def values (options : Options) (name : String) : List String :=
  options.filterMap fun o => if o.1 = name then some o.2 else none

/-- The value of an option, if it is given. -/
def value? (options : Options) (name : String) : Option String := (values options name).head?

/-- The option with a list of names. It may be given several times. -/
def listOption : String := "fields"

/-- The options with paths. A path is not empty. -/
def pathOptions : List String := ["principal", "record", "records"]

/-- Whether no option is given twice, except the one with a list, and no path is empty. -/
def isWellFormed (options : Options) : Bool :=
  options.all fun o =>
    (o.1 = listOption || (values options o.1).length = 1) &&
      !(pathOptions.contains o.1 && o.2.isEmpty)

/-- The names of the options that a command has besides those of every command. -/
def commandOptions? : String → Option (List String)
  | "check" => some ["field", "record"]
  | "fields" => some ["records"]
  | "records" => some ["records"]
  | "where" => some []
  | "select" => some [listOption]
  | _ => none

/-- The command with a name and options, if nothing that it needs is missing. -/
def command? (name : String) (options : Options) : Option Command := do
  let target : Target :=
    { principal := ← value? options "principal"
      action := ← value? options "action"
      entityType := ← value? options "entity" }
  match name with
  | "check" => pure (.check target (value? options "field") (value? options "record"))
  | "fields" => pure (.fields target (← value? options "records"))
  | "records" => pure (.records target (← value? options "records"))
  | "where" => pure (.query target)
  | "select" => pure (.select target ((values options listOption).flatMap (Text.split ',')))
  | _ => none

/-- Whether an argument asks for help. The letter that does so may have others behind it, which
are not looked at. -/
def asksForHelp (argument : String) : Bool :=
  argument = "--help" || ['-', 'h'].isPrefixOf argument.toList

/-- Whether an argument in front of any command asks for the version. The letter that does so may
have others behind it, which are not looked at. -/
def asksForVersion (argument : String) : Bool :=
  argument = "--version" || ['-', 'V'].isPrefixOf argument.toList

/-- What the arguments after the name of a command ask for. A mode given there goes before one
given in front of the command. Help is given as soon as it is asked for, if the options up to there
are in order, and nothing that stands behind is looked at. -/
def ofCommand (outer : Options) (name : String) (arguments : List String) : Arguments :=
  match commandOptions? name with
  | none => misuse
  | some own =>
    match takeOptions (["mode", "principal", "action", "entity"] ++ own) arguments with
    | none => misuse
    | some (options, rest) =>
      if !isWellFormed options then misuse
      else if rest.head?.any asksForHelp then help (some name)
      else if rest = [] || rest = ["--"] then
        match command? name options with
        | some command => run ⟨(value? options "mode").or (value? outer "mode"), command⟩
        | none => misuse
      else misuse

/-- The command that explains the others. -/
def helpCommand : String := "help"

/-- What the arguments after the command for help ask for. -/
def ofHelp : List String → Arguments
  | [] => help none
  | [name] =>
    if name = helpCommand || (commandOptions? name).isSome then help (some name) else misuse
  | _ => misuse

/-- The options among those at the start of some arguments that are checked before the argument
behind them is looked at: all but the last one, if its value is an argument of its own. -/
def settled (arguments rest : List String) (options : Options) : Options :=
  match (arguments.take (arguments.length - rest.length)).getLast? with
  | none => options
  | some last => if (option? last).isSome then options else options.dropLast

/-- What the arguments of a command line ask for. The option in front of a command is checked once
the command has been read, so that help about the command goes before. -/
def ofList (arguments : List String) : Arguments :=
  match takeOptions ["mode"] arguments with
  | some (options, name :: rest) =>
    if asksForVersion name then if isWellFormed options then version else misuse
    else if asksForHelp name then if isWellFormed options then help none else misuse
    else
      match if name = helpCommand then ofHelp rest else ofCommand options name rest with
      | help command =>
        if isWellFormed (settled arguments (name :: rest) options) then help command else misuse
      | other => if isWellFormed options then other else misuse
  | _ => misuse

end Arguments

end AccessPolicy
