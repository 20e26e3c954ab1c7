import AccessPolicy.Proofs.CommandLine.Gate
import AccessPolicy.Proofs.Predicate.Agreement

/-!
# What the commands say about the records of a file

Three commands go through the records of a file. One prints a decision about each record together
with the part of it that may be seen; one prints these parts alone; and one prints the parts of the
records that may be seen. They come to this in different ways, deciding record by record, dropping
records and then fields, or dropping fields only, and a fourth command prints the predicate by which
a store is to select. All four say the same: the parts agree entry by entry, and those that the
third command prints are the ones that the first calls accessible and the predicate selects.

A caller sees texts, and can tell the values apart by them: what is said here of values is said of
what is printed.

## Main definitions

* `Json.isAccessible` — the decision about a record in the report of the first command.
* `CommandLine.ListingsAgree` — what the four commands print says the same.

## Main statements

* `Request.listingsAgree` — the reports of one request agree.
* `CommandLine.listingsAgree_of_exitCode` — commands about one target and one file agree.
-/
namespace AccessPolicy

/-! ## Printed values -/

/-- The value under a key of an object that is written with some fields. -/
theorem Json.field?_ofFields (fields : List (String × Json)) (key : String) :
    (ofFields fields).field? key = (Dict.ofList fields).get? key :=
  rfl

/-- Whether an entry of a report calls its record accessible. -/
def Json.isAccessible (entry : Json) : Bool :=
  match entry.field? "accessible" with
  | some (.bool b) => b
  | _ => false

namespace CommandLine

/-- The lists that the commands print of some records say the same: `entries` has the decisions and
the visible parts, `shown` the visible parts of all records and `kept` those of the records that may
be seen. -/
structure ListingsAgree (records : List Record) (predicate : Predicate)
    (entries shown kept : List Json) : Prop where
  /-- There is an entry for each record. -/
  length_entries : entries.length = records.length
  /-- There is a visible part for each record. -/
  length_shown : shown.length = records.length
  /-- The visible parts are those of the entries. -/
  visible : ∀ i : Nat, shown[i]? = entries[i]?.bind (·.field? "visible")
  /-- The visible parts of accessible records are kept, in the order of the file. -/
  accessible : kept = (entries.filter Json.isAccessible).filterMap (·.field? "visible")
  /-- Accessible is what the predicate selects. -/
  selected : ∀ (i : Nat) (record : Record), records[i]? = some record →
    entries[i]?.map Json.isAccessible = some (predicate.selects record)

end CommandLine

/-! ## The reports of a request -/

namespace Request

variable {r : Request} {record : Record}

theorem field?_recordReport_visible :
    (recordReport r record).field? "visible" = some (.ofDict (r.project record)) := by
  rw [recordReport, Json.field?_ofFields]
  simp [Dict.ofList]

theorem isAccessible_recordReport : (recordReport r record).isAccessible = r.seesRecord record := by
  rw [Json.isAccessible, recordReport, Json.field?_ofFields]
  simp [Dict.ofList]

theorem field?_checkReport_records (r : Request) (field : Option String) (records : List Record) :
    (checkReport r field (some records)).field? "records" =
      some (.array (records.map (recordReport r))) := by
  rw [checkReport, Json.field?_ofFields]
  cases field <;> simp [optionalEntry, Dict.ofList]

/-- **The reports of a request agree** on the records that they are about. -/
theorem listingsAgree (r : Request) (records : List Record) :
    CommandLine.ListingsAgree records r.predicate (records.map (recordReport r))
      ((r.projectAll records).map Json.ofDict)
      ((r.projectAll (r.filterRecords records)).map Json.ofDict) := by
  constructor
  case length_entries => rw [List.length_map]
  case length_shown => rw [projectAll, List.length_map, List.length_map]
  case visible =>
    intro i
    rw [projectAll, List.getElem?_map, List.getElem?_map, List.getElem?_map, Option.map_map]
    cases records[i]? with
    | none => rfl
    | some record => exact field?_recordReport_visible.symm
  case accessible =>
    rw [filterRecords_eq_filter, projectAll, List.filter_map, List.filterMap_map]
    simp [Function.comp_def, field?_recordReport_visible, isAccessible_recordReport]
  case selected =>
    intro i record hrecord
    rw [List.getElem?_map, hrecord, Option.map_some, Option.map_some, isAccessible_recordReport,
      selects_predicate]

end Request

/-! ## The commands -/

namespace Command

variable {files : Files} {mode : Mode} {target : Target} {path : String} {r : Request} {v : Json}

/-- What the command with a gate prints about the records of a file. -/
theorem exists_records_of_check {field : Option String}
    (h : (check target field (some path)).report files mode = .ok v) :
    ∃ r records, target.load files = .ok r ∧ Snapshot.loadRecords files path = .ok records ∧
      v = checkReport r field (some records) := by
  rw [report, Decoder.bind_eq_ok] at h
  obtain ⟨r, hload, h⟩ := h
  obtain ⟨-, -, h⟩ := Decoder.bind_eq_ok.1 h
  obtain ⟨records, hrecords, h⟩ := Decoder.bind_eq_ok.1 h
  exact ⟨r, records, hload, plainly_eq_ok.1 hrecords, (Decoder.pure_eq_ok.1 h).symm⟩

/-- What the command with a gate prints once it has passed the gate. -/
theorem report_check_records_eq {list : List Record} {field : Option String}
    (hload : target.load files = .ok r) (hopen : r.require mode = .ok ())
    (hlist : Snapshot.loadRecords files path = .ok list) :
    (check target field (some path)).report files mode = .ok (checkReport r field (some list)) := by
  rw [report, hload]
  simp only [bind, Except.bind, hopen, hlist]
  rfl

/-- What is printed of the records of a file, whether they may be seen or not. -/
theorem report_fields_eq {list : List Record} (hload : target.load files = .ok r)
    (hlist : Snapshot.loadRecords files path = .ok list) :
    (fields target path).report files mode = .ok (recordsJson (r.projectAll list)) := by
  rw [report, hload, hlist]
  rfl

/-- What is printed of the records of a file that may be seen. -/
theorem report_records_eq {list : List Record} (hload : target.load files = .ok r)
    (hlist : Snapshot.loadRecords files path = .ok list) :
    (records target path).report files mode =
      .ok (recordsJson (r.projectAll (r.filterRecords list))) := by
  rw [report, hload, hlist]
  rfl

end Command

namespace CommandLine

variable {s : Surroundings} {mode : Option String} {target : Target} {path : String}

/-- A command prints what it reports in the mode of its invocation. -/
theorem prints_of_report {arguments : List String} {command : Command} {vars : Variables} {m : Mode}
    {v : Json} (hsettings : s.settings? = some vars)
    (harguments : Arguments.ofList arguments = .run ⟨mode, command⟩)
    (hmode : CommandLine.mode vars mode = .ok m) (hreport : command.report s.files m = .ok v) :
    (run s arguments).Prints v := by
  refine Outcome.prints_of_eq (run_eq_printed hsettings harguments ?_)
  rw [report, hmode]
  exact hreport

/-- **Commands about one target and one file of records agree.** If the decisions about the records
of a file are printed at all, so are the visible parts of all records, those of the records that may
be seen, and the predicate for a store. There is one entry in the first and one in the second list
for each record of the file, with the same visible part; and the third list has, in the order of the
file, the visible parts of the records that the first calls accessible, which are those that the
predicate selects. -/
theorem listingsAgree_of_exitCode {checkArguments fieldsArguments recordsArguments
      queryArguments : List String} {field : Option String}
    (hcheck : Arguments.ofList checkArguments = .run ⟨mode, .check target field (some path)⟩)
    (hfields : Arguments.ofList fieldsArguments = .run ⟨mode, .fields target path⟩)
    (hrecords : Arguments.ofList recordsArguments = .run ⟨mode, .records target path⟩)
    (hquery : Arguments.ofList queryArguments = .run ⟨mode, .query target⟩)
    (h : (run s checkArguments).exitCode = 0) :
    ∃ (records : List Record) (predicate : Predicate) (checked : Json)
      (entries shown kept : List Json),
      Snapshot.loadRecords s.files path = .ok records ∧
      (run s checkArguments).Prints checked ∧ checked.field? "records" = some (.array entries) ∧
      (run s fieldsArguments).Prints (.array shown) ∧
      (run s recordsArguments).Prints (.array kept) ∧
      (run s queryArguments).Prints predicate.toJson ∧
      ListingsAgree records predicate entries shown kept := by
  obtain ⟨vars, v, hsettings, hreport, hprinted⟩ := exists_report_of_exitCode hcheck h
  obtain ⟨m, hmode, hreport⟩ := Decoder.bind_eq_ok.1 hreport
  obtain ⟨r, records, hload, hlist, rfl⟩ := Command.exists_records_of_check hreport
  exact ⟨records, r.predicate, _, _, _, _, hlist, Outcome.prints_of_eq hprinted,
    r.field?_checkReport_records field records,
    prints_of_report hsettings hfields hmode (Command.report_fields_eq hload hlist),
    prints_of_report hsettings hrecords hmode (Command.report_records_eq hload hlist),
    prints_of_report hsettings hquery hmode (Command.report_query_eq hload),
    r.listingsAgree records⟩

/-! ### A team and two employees -/

/-- A principal who may read the employees of one team, without one of their fields. -/
def reader : Principal :=
  { id := "u-1"
    permissions :=
      [{ entityType := "employees"
         actions := ["read"]
         fields := some ⟨none, some ["ssn"]⟩
         conditions := some (.ofList [("team", ⟨.known .eq, .literal (.string "Ops")⟩)]) }] }

/-- The principal in a file, and a file with an employee of that team and one of another. -/
def teamSurroundings : Surroundings where
  files path :=
    if path = "p.json" then
      some ("\x7b\"id\":\"u-1\",\"permissions\":" ++
        "[\x7b\"entityType\":\"employees\",\"actions\":[\"read\"]," ++
        "\"fields\":\x7b\"denied\":[\"ssn\"]\x7d," ++
        "\"conditions\":\x7b\"team\":\x7b\"eq\":\"Ops\"\x7d\x7d\x7d]\x7d")
    else if path = "r.json" then
      some ("[\x7b\"ssn\":\"1\",\"team\":\"Ops\"\x7d," ++
        "\x7b\"ssn\":\"2\",\"team\":\"HR\"\x7d]")
    else none
  environment := .empty
  depth := 1
  home := "/opt"
  helpPage _ := "Usage: records-authz"

/-- An employee with a number and a team. -/
def employee (ssn team : String) : Record :=
  .ofList [("ssn", .string ssn), ("team", .string team)]

/-- What the principal may do. -/
def reading : Target := ⟨"p.json", "read", "employees"⟩

/-- A command line about it. -/
def readingArguments (command : String) (options : Arguments.Options) : List String :=
  Arguments.commandLine none command
    ([("principal", "p.json"), ("action", "read"), ("entity", "employees")] ++ options)

/-- The file with the principal in it. -/
theorem loadPrincipal_reader : Snapshot.loadPrincipal teamSurroundings.files "p.json" =
    .ok reader := by
  have hdocument : Document.ofText ("\x7b\"id\":\"u-1\",\"permissions\":" ++
      "[\x7b\"entityType\":\"employees\",\"actions\":[\"read\"]," ++
      "\"fields\":\x7b\"denied\":[\"ssn\"]\x7d," ++
      "\"conditions\":\x7b\"team\":\x7b\"eq\":\"Ops\"\x7d\x7d\x7d]\x7d") =
      .object [("id", .string "u-1"), ("permissions", .array [.object
        [("entityType", .string "employees"), ("actions", .array [.string "read"] .closed),
          ("fields", .object [("denied", .array [.string "ssn"] .closed)] .closed),
          ("conditions", .object [("team", .object [("eq", .string "Ops")] .closed)] .closed)]
        .closed] .closed)] .closed := by
    cbv
  refine Decoder.bind_eq_ok.2 ⟨_, rfl, ?_⟩
  rw [Snapshot.decode, hdocument]
  rfl

/-- The file with the employees in it. -/
theorem loadRecords_team : Snapshot.loadRecords teamSurroundings.files "r.json" =
    .ok [employee "1" "Ops", employee "2" "HR"] := by
  have hdocument : Document.ofText ("[\x7b\"ssn\":\"1\",\"team\":\"Ops\"\x7d," ++
      "\x7b\"ssn\":\"2\",\"team\":\"HR\"\x7d]") =
      .array [.object [("ssn", .string "1"), ("team", .string "Ops")] .closed,
        .object [("ssn", .string "2"), ("team", .string "HR")] .closed] .closed := by
    cbv
  refine Decoder.bind_eq_ok.2 ⟨_, rfl, ?_⟩
  rw [Snapshot.decode, hdocument]
  rfl

/-- The employee of the other team is shown without a number and is not kept. -/
theorem listingsAgree_teamSurroundings :
    (run teamSurroundings (readingArguments "check" [("record", "r.json")])).exitCode = 0 ∧
      ∃ (predicate : Predicate) (entries shown kept : List Json),
        (run teamSurroundings (readingArguments "fields" [("records", "r.json")])).Prints
          (.array shown) ∧
        (run teamSurroundings (readingArguments "records" [("records", "r.json")])).Prints
          (.array kept) ∧
        (run teamSurroundings (readingArguments "where" [])).Prints predicate.toJson ∧
        ListingsAgree [employee "1" "Ops", employee "2" "HR"] predicate entries shown kept := by
  have hnone : ∀ text ∈ (none : Option String), Arguments.isValue text = true := nofun
  have hcheck : Arguments.ofList (readingArguments "check" [("record", "r.json")]) =
      .run ⟨none, .check reading none (some "r.json")⟩ :=
    Arguments.ofList_commandLine hnone rfl (by decide) rfl (by decide) (by decide)
  have hfields : Arguments.ofList (readingArguments "fields" [("records", "r.json")]) =
      .run ⟨none, .fields reading "r.json"⟩ :=
    Arguments.ofList_commandLine hnone rfl (by decide) rfl (by decide) (by decide)
  have hrecords : Arguments.ofList (readingArguments "records" [("records", "r.json")]) =
      .run ⟨none, .records reading "r.json"⟩ :=
    Arguments.ofList_commandLine hnone rfl (by decide) rfl (by decide) (by decide)
  have hquery : Arguments.ofList (readingArguments "where" []) = .run ⟨none, .query reading⟩ :=
    Arguments.ofList_commandLine hnone rfl (by decide) rfl (by decide) (by decide)
  have hload : reading.load teamSurroundings.files = .ok ⟨reader, "read", "employees"⟩ :=
    Target.load_eq_ok_iff.2 ⟨reader, loadPrincipal_reader, rfl⟩
  have hopen : (⟨reader, "read", "employees"⟩ : Request).require .strict = .ok () :=
    Mode.enforce_eq_ok_iff.2 (.inl (by decide))
  have hsettings : teamSurroundings.settings? = some .empty := rfl
  have hexit : (run teamSurroundings (readingArguments "check" [("record", "r.json")])).exitCode =
      0 := by
    rw [run_eq_printed hsettings hcheck
      (Command.report_check_records_eq hload hopen loadRecords_team)]
    rfl
  obtain ⟨records, predicate, checked, entries, shown, kept, hloaded, -, -, hshown, hkept, hprinted,
    hagree⟩ := listingsAgree_of_exitCode hcheck hfields hrecords hquery hexit
  cases loadRecords_team.symm.trans hloaded
  exact ⟨hexit, predicate, entries, shown, kept, hshown, hkept, hprinted, hagree⟩

end CommandLine

end AccessPolicy
