import AccessPolicy.Proofs.Json.Yield
import AccessPolicy.Proofs.TrailingText

/-!
# Records files

A records file holds one record or a list of records. The value in the file decides which, and
either the whole value becomes records or nothing does. An object is the only record of its file, an
array of objects lists its records in order, and every other value is refused at the root, even if a
single item of a long array is no object.

A record is written as an object, so a list of records can be compared with the value in the file:
what is loaded is written as that value again. This is stated for canonical values, whose objects
list their keys in order and once, since those are the values that a text is read as.

## Main definitions

* `Snapshot.Writes` — a value writes records.
* `Snapshot.Holds` — a file holds a value.
* `Snapshot.LoadsWhole` — what is loaded from a file that holds a value.

## Main statements

* `Snapshot.records?_eq_some_iff` — the records that are found in a value are those it writes.
* `Snapshot.loadRecords_eq_ok_iff`, `Snapshot.loadRecords_eq_error` — when records are loaded, and
  when they are refused.
* `Snapshot.loadRecords_whole_or_refused` — a records file is loaded as a whole or refused.
-/
namespace AccessPolicy

/-! ## Records as values -/

namespace Json

/-- The value is an object. -/
def IsObject (v : Json) : Prop := ∃ fields, v = .object fields

theorem isObject_ofDict (record : Record) : (ofDict record).IsObject := ⟨record.entries, rfl⟩

theorem record?_ofDict (record : Record) : (ofDict record).record? = some record := by
  rw [ofDict, record?, Dict.ofList_entries]

namespace IsCanonical

theorem of_mem {items : List Json} (h : (array items).IsCanonical) :
    ∀ v ∈ items, v.IsCanonical := by
  have hitems : canonicalItems items = items := Json.array.inj h
  clear h
  induction items with
  | nil => exact nofun
  | cons v rest ih =>
    obtain ⟨hv, hrest⟩ := List.cons.inj hitems
    exact List.forall_mem_cons.2 ⟨hv, ih hrest⟩

theorem exists_ofDict {v : Json} (h : v.IsCanonical) (hobject : v.IsObject) :
    ∃ record, ofDict record = v := by
  obtain ⟨fields, rfl⟩ := hobject
  exact ⟨Dict.ofList (canonicalFields fields), h⟩

theorem record?_eq_some_iff {v : Json} (h : v.IsCanonical) {record : Record} :
    v.record? = some record ↔ ofDict record = v := by
  constructor
  · intro hrecord
    have hobject : v.IsObject := by
      cases v with
      | object fields => exact ⟨fields, rfl⟩
      | _ => cases hrecord
    obtain ⟨own, rfl⟩ := h.exists_ofDict hobject
    rw [record?_ofDict, Option.some.injEq] at hrecord
    rw [hrecord]
  · rintro rfl
    exact record?_ofDict record

end IsCanonical

variable {items : List Json}

/-- A list of objects is a list of records. -/
theorem exists_map_ofDict (h : ∀ v ∈ items, v.IsCanonical) (hobjects : ∀ v ∈ items, v.IsObject) :
    ∃ records : List Record, records.map ofDict = items := by
  induction items with
  | nil => exact ⟨[], rfl⟩
  | cons v rest ih =>
    obtain ⟨hv, hrest⟩ := List.forall_mem_cons.1 h
    obtain ⟨hvobject, hrestobjects⟩ := List.forall_mem_cons.1 hobjects
    obtain ⟨record, rfl⟩ := hv.exists_ofDict hvobject
    obtain ⟨records, rfl⟩ := ih hrest hrestobjects
    exact ⟨record :: records, rfl⟩

/-- Every item becomes a record, none is left out. -/
theorem mapM_record?_eq_some_iff (h : ∀ v ∈ items, v.IsCanonical) {records : List Record} :
    items.mapM record? = some records ↔ records.map ofDict = items := by
  induction items generalizing records with
  | nil => simp [eq_comm]
  | cons v rest ih =>
    obtain ⟨hv, hrest⟩ := List.forall_mem_cons.1 h
    simp only [List.mapM_cons, Option.bind_eq_bind, Option.pure_def, Option.bind_eq_some_iff,
      Option.some.injEq, hv.record?_eq_some_iff, ih hrest]
    constructor
    · rintro ⟨record, hrecord, records, hrecords, rfl⟩
      rw [List.map_cons, hrecord, hrecords]
    · intro hwritten
      obtain ⟨record, records, rfl, hrecord, hrecords⟩ := List.map_eq_cons_iff.1 hwritten
      exact ⟨record, hrecord, records, hrecords, rfl⟩

end Json

namespace Snapshot

open Json (ofDict)

/-! ## The records in a value -/

/-- The value writes the records: as an object the only one, and as an array all of them in
order. -/
inductive Writes : Json → List Record → Prop
  | one (record : Record) : Writes (ofDict record) [record]
  | many (records : List Record) : Writes (.array (records.map ofDict)) records

variable {v : Json} {record : Record} {records : List Record}

theorem records?_ofDict (record : Record) : records? (ofDict record) = some [record] := by
  rw [ofDict, records?, Dict.ofList_entries]

/-- **The records in a value** are those that the value writes. -/
theorem records?_eq_some_iff (h : v.IsCanonical) :
    records? v = some records ↔ Writes v records := by
  constructor
  · intro hrecords
    cases v with
    | object fields =>
      obtain ⟨record, hrecord⟩ := h.exists_ofDict ⟨fields, rfl⟩
      rw [← hrecord, records?_ofDict, Option.some.injEq] at hrecords
      rw [← hrecord, ← hrecords]
      exact .one record
    | array items =>
      obtain rfl := (Json.mapM_record?_eq_some_iff h.of_mem).1 hrecords
      exact .many records
    | _ => cases hrecords
  · intro hwrites
    cases hwrites with
    | one record => exact records?_ofDict record
    | many records => exact (Json.mapM_record?_eq_some_iff h.of_mem).2 rfl

/-- A value that is neither an object nor an array of objects has no records. -/
theorem records?_eq_none (h : v.IsCanonical) (hobject : ¬ v.IsObject)
    (hitems : ∀ items, v = .array items → ∃ item ∈ items, ¬ item.IsObject) :
    records? v = none := by
  rw [Option.eq_none_iff_forall_ne_some]
  intro records hrecords
  -- Records would have to be written by the value, which is then of one of the two forms.
  cases (records?_eq_some_iff h).1 hrecords with
  | one record => exact hobject (Json.isObject_ofDict record)
  | many records =>
    obtain ⟨item, hitem, hnone⟩ := hitems _ rfl
    obtain ⟨record, -, rfl⟩ := List.mem_map.1 hitem
    exact hnone (Json.isObject_ofDict record)

/-! ## The value in a file -/

/-- The text of a file is the value, in any order of keys, and is not nested too deep. -/
def Holds (files : Files) (path : String) (v : Json) : Prop :=
  ∃ text written, files path = some text ∧ Document.ofText text = .ofJson written ∧
    written.depth ≤ nestingLimit ∧ written.canonical = v

variable {files : Files} {path text : String}

theorem holds_iff : Holds files path v ↔
    ∃ text, files path = some text ∧ Decoder.json .root (.ofText text) = .ok v := by
  simp only [Holds, Decoder.json_eq_ok_iff, Place.root, exists_and_left]

theorem Holds.isCanonical (h : Holds files path v) : v.IsCanonical := by
  obtain ⟨text, -, hjson⟩ := holds_iff.1 h
  exact Decoder.isCanonical_of_json hjson

theorem read_eq_ok_iff : read files path = .ok text ↔ files path = some text := by
  rw [read]
  cases files path <;> simp

theorem recordsDecoder_eq_ok_iff {p : Place} {d : Document} :
    recordsDecoder p d = .ok records ↔
      ∃ v, Decoder.json p d = .ok v ∧ records? v = some records := by
  rw [recordsDecoder, Decoder.bind_eq_ok]
  refine exists_congr fun v => and_congr_right fun _ => ?_
  cases records? v <;> simp

/-- Records are loaded if a file holds a value that writes them, and from no other file. -/
theorem loadRecords_eq_ok_iff :
    loadRecords files path = .ok records ↔ ∃ v, Holds files path v ∧ Writes v records := by
  simp only [loadRecords, Decoder.bind_eq_ok, read_eq_ok_iff, decode_eq_ok_iff,
    recordsDecoder_eq_ok_iff, holds_iff]
  constructor
  · rintro ⟨text, hfile, v, hjson, hrecords⟩
    have hcanonical := Decoder.isCanonical_of_json hjson
    exact ⟨v, ⟨text, hfile, hjson⟩, (records?_eq_some_iff hcanonical).1 hrecords⟩
  · rintro ⟨v, ⟨text, hfile, hjson⟩, hwrites⟩
    have hcanonical := Decoder.isCanonical_of_json hjson
    exact ⟨text, hfile, v, hjson, (records?_eq_some_iff hcanonical).2 hwrites⟩

/-- A value that has no records is refused where it begins. -/
theorem loadRecords_eq_error (h : Holds files path v) (hnone : records? v = none) :
    loadRecords files path = .error (.invalidSnapshot path ⟨[], .mistyped⟩) := by
  obtain ⟨text, hfile, hjson⟩ := holds_iff.1 h
  have hrefused : recordsDecoder .root (.ofText text) = Place.root.fail .mistyped := by
    simp [recordsDecoder, hjson, hnone, bind, Except.bind]
  have hread : read files path = .ok text := read_eq_ok_iff.2 hfile
  rw [loadRecords, hread]
  change decode recordsDecoder path text = _
  rw [decode, hrefused]
  rfl

/-! ## Whole files -/

/-- What is loaded from a file that holds a value. -/
structure LoadsWhole (files : Files) (path : String) (v : Json) : Prop where
  /-- An object is the only record. -/
  object : v.IsObject → ∃ record, ofDict record = v ∧ loadRecords files path = .ok [record]
  /-- An array of objects lists the records. -/
  array : ∀ items, v = .array items → (∀ item ∈ items, item.IsObject) →
    ∃ records : List Record, records.map ofDict = items ∧ loadRecords files path = .ok records
  /-- Any other value is refused as a whole, where it begins. -/
  refused : ¬ v.IsObject → (∀ items, v = .array items → ∃ item ∈ items, ¬ item.IsObject) →
    ∃ error, loadRecords files path = .error (.invalidSnapshot path error) ∧
      error.path = [] ∧ error.cause.category = .mistyped

theorem Holds.loadsWhole (h : Holds files path v) : LoadsWhole files path v where
  object hobject := by
    obtain ⟨record, rfl⟩ := h.isCanonical.exists_ofDict hobject
    exact ⟨record, rfl, loadRecords_eq_ok_iff.2 ⟨_, h, .one record⟩⟩
  array items hitems hobjects := by
    subst hitems
    obtain ⟨records, rfl⟩ := Json.exists_map_ofDict h.isCanonical.of_mem hobjects
    exact ⟨records, rfl, loadRecords_eq_ok_iff.2 ⟨_, h, .many records⟩⟩
  refused hobject hitems := by
    have hnone := records?_eq_none h.isCanonical hobject hitems
    exact ⟨_, loadRecords_eq_error h hnone, rfl, rfl⟩

/-- **A records file is read completely or refused.** A file that holds a value loads all of it or
nothing. Whatever is loaded is written as the value that the file holds, so no record is dropped,
doubled or altered. One record may stand in a list or by itself. -/
theorem loadRecords_whole_or_refused (files : Files) (path : String) :
    (∀ v, Holds files path v → LoadsWhole files path v) ∧
    (∀ records, loadRecords files path = .ok records →
      ∃ v, Holds files path v ∧ Writes v records) ∧
    ∀ path' record, Holds files path (ofDict record) →
      Holds files path' (.array [ofDict record]) →
        loadRecords files path' = loadRecords files path := by
  refine ⟨fun v h => h.loadsWhole, fun records h => loadRecords_eq_ok_iff.1 h, ?_⟩
  intro path' record h h'
  rw [loadRecords_eq_ok_iff.2 ⟨_, h, .one record⟩, loadRecords_eq_ok_iff.2 ⟨_, h', .many [record]⟩]

/-- The record that the files of the depot write. -/
def vehicle : Record := Dict.ofList [("id", .string "v-5"), ("status", .string "new")]

/-- A record by itself, the same record in a list, and a list in which `null` stands behind it. -/
def depot : Files
  | "vehicle.json" => some "\x7b\"status\": \"new\", \"id\": \"v-5\"\x7d"
  | "vehicles.json" => some "[\x7b\"status\": \"new\", \"id\": \"v-5\"\x7d]"
  | "torn.json" => some "[\x7b\"status\": \"new\", \"id\": \"v-5\"\x7d, null]"
  | _ => none

theorem holds_depot :
    Holds depot "vehicle.json" (ofDict vehicle) ∧
      Holds depot "vehicles.json" (.array [ofDict vehicle]) ∧
      Holds depot "torn.json" (.array [ofDict vehicle, .null]) := by
  let written : Json := .object [("status", .string "new"), ("id", .string "v-5")]
  refine ⟨⟨_, written, rfl, ?_, by decide, rfl⟩,
    ⟨_, .array [written], rfl, ?_, by decide, rfl⟩,
    ⟨_, .array [written, .null], rfl, ?_, by decide, rfl⟩⟩ <;> cbv

/-- The record is loaded from two of the files, and the third one is refused as a whole. -/
theorem loadRecords_depot :
    (∃ record, ofDict record = ofDict vehicle ∧
      loadRecords depot "vehicle.json" = .ok [record]) ∧
    loadRecords depot "vehicles.json" = loadRecords depot "vehicle.json" ∧
    ∃ error, loadRecords depot "torn.json" = .error (.invalidSnapshot "torn.json" error) ∧
      error.path = [] ∧ error.cause.category = .mistyped := by
  obtain ⟨hone, hmany, htorn⟩ := holds_depot
  obtain ⟨hvehicle, -, hsame⟩ := loadRecords_whole_or_refused depot "vehicle.json"
  refine ⟨(hvehicle _ hone).object (Json.isObject_ofDict vehicle), hsame _ _ hone hmany,
    ((loadRecords_whole_or_refused depot "torn.json").1 _ htorn).refused ?_ ?_⟩
  · rintro ⟨fields, ⟨⟩⟩
  · rintro items ⟨⟩
    exact ⟨.null, by simp, by rintro ⟨fields, ⟨⟩⟩⟩

end Snapshot

end AccessPolicy
