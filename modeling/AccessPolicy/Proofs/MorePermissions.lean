import AccessPolicy.Proofs.Answers
import AccessPolicy.Proofs.ListedFields
import AccessPolicy.Proofs.Predicate.Agreement
import Mathlib.Data.List.Basic

/-!
# More permissions allow more

Permissions are united, so a principal that gets more of them can do no less than before, and the
order in which they are listed, their repetitions and those that do not count for a request make
no difference to it.

The first of these is a comparison of requests, `Request.IsWithin`: one may do whatever the other
may do. It follows from an inclusion of the permissions that count, answer by answer. The second
then needs no look at permissions at all: two requests each of which is within the other give the
same answers, but for the order in which fields are listed.

## Main definitions

* `Request.withPermissions` — the same request of a principal with other permissions.
* `Request.IsWithin` — whatever one request may do, another one may do.
* `Request.AnswersAlike` — two requests get the same answers.

## Main statements

* `Request.isWithin_of_subset` — more permissions allow more.
* `Request.IsWithin.answersAlike` — each within the other is the same answers.
* `Request.isWithin_answersAlike_withPermissions` — only the set of the permissions that count
  matters.
-/
namespace AccessPolicy

namespace Request

variable {r s : Request}

/-! ## Less and more -/

/-- Whatever `r` may do, `s` may do. -/
structure IsWithin (r s : Request) : Prop where
  /-- If the action is allowed, it stays so. -/
  isAllowed : r.isAllowed = true → s.isAllowed = true
  /-- A field that is seen stays so. -/
  seesField : ∀ field, r.seesField field = true → s.seesField field = true
  /-- A field that is listed stays so. -/
  accessibleFields : ∀ schema field,
    field ∈ r.accessibleFields schema → field ∈ s.accessibleFields schema
  /-- A value that is left in a record stays so. -/
  project : ∀ record field value,
    (r.project record).get? field = some value → (s.project record).get? field = some value
  /-- A name that is accepted for writing stays so: what `s` rejects was rejected by `r`. -/
  checkWrite : ∀ names fault, s.checkWrite names = .error fault →
    ∃ fewer rejected, fault = .fieldsNotWritable s.entityType fewer ∧
      r.checkWrite names = .error (.fieldsNotWritable r.entityType rejected) ∧
      fewer.Sublist rejected
  /-- A record that is seen stays so. -/
  seesRecord : ∀ record, r.seesRecord record = true → s.seesRecord record = true
  /-- Records that are kept stay so, in their order and as often. -/
  filterRecords : ∀ records, (r.filterRecords records).Sublist (s.filterRecords records)
  /-- A record that the predicate selects stays so. -/
  predicate : ∀ record, r.predicate.selects record = true → s.predicate.selects record = true

/-- **More permissions allow more**: a request is within any other whose permissions include its
own, if conditions are resolved in the same context. -/
theorem isWithin_of_subset (hsuper : r.principal.isSuperuser = s.principal.isSuperuser)
    (hcontext : r.context = s.context) (hsubset : r.permissions ⊆ s.permissions) :
    r.IsWithin s := by
  have hallowed : r.permissions ≠ [] → s.permissions ≠ [] := by
    intro hne hnil
    exact hne (List.subset_nil.1 (hnil ▸ hsubset))
  have hfield : ∀ field, r.seesField field = true → s.seesField field = true := by
    intro field h
    obtain ⟨p, hp, hpermits⟩ := List.any_eq_true.1 h
    exact List.any_eq_true.2 ⟨p, hsubset hp, hpermits⟩
  have hrecord : ∀ record, r.seesRecord record = true → s.seesRecord record = true := by
    intro record h
    rw [seesRecord, Bool.or_eq_true] at h ⊢
    rcases h with h | h
    · exact .inl (hsuper ▸ h)
    · obtain ⟨p, hp, haccept⟩ := List.any_eq_true.1 h
      exact .inr (List.any_eq_true.2 ⟨p, hsubset hp, hcontext ▸ haccept⟩)
  constructor
  case isAllowed =>
    rw [isAllowed_iff, isAllowed_iff]
    exact hallowed
  case seesField => exact hfield
  case accessibleFields =>
    intro schema field h
    obtain ⟨p, hp, hlisted⟩ := mem_accessibleFields.1 h
    exact mem_accessibleFields.2 ⟨p, hsubset hp, hlisted⟩
  case project =>
    intro record field value h
    obtain ⟨hne, hvalue, hkept⟩ := get?_project_eq_some_iff.1 h
    exact get?_project_eq_some_iff.2 ⟨hallowed hne, hvalue, hkept.imp_right (hfield field)⟩
  case checkWrite =>
    intro names fault h
    obtain ⟨hne, rfl⟩ := checkWrite_eq_error_iff.1 h
    have hsublist : (names.filter (!s.seesField ·)).Sublist (names.filter (!r.seesField ·)) := by
      refine List.monotone_filter_right names ?_
      intro name hrejected
      rw [Bool.not_eq_true'] at hrejected ⊢
      rw [Bool.eq_false_iff] at hrejected ⊢
      exact fun hseen => hrejected (hfield name hseen)
    refine ⟨_, _, rfl, checkWrite_eq_error_iff.2 ⟨?_, rfl⟩, hsublist⟩
    intro hnil
    exact hne (List.sublist_nil.1 (hnil ▸ hsublist))
  case seesRecord => exact hrecord
  case filterRecords =>
    intro records
    rw [filterRecords_eq_filter, filterRecords_eq_filter]
    exact List.monotone_filter_right records hrecord
  case predicate =>
    intro record
    rw [selects_predicate, selects_predicate]
    exact hrecord record

/-! ## The same answers -/

/-- Two requests get the same answers, but for the order in which fields are listed. -/
structure AnswersAlike (r s : Request) : Prop where
  /-- The action is allowed to both or to none. -/
  isAllowed : r.isAllowed = s.isAllowed
  /-- The same fields are seen. -/
  seesField : ∀ field, r.seesField field = s.seesField field
  /-- The same fields are listed, each once, in whatever order. -/
  accessibleFields : ∀ schema, (r.accessibleFields schema).Perm (s.accessibleFields schema)
  /-- The same part is left of a record. -/
  project : ∀ record, r.project record = s.project record
  /-- A store is asked for the same fields. -/
  selection : ∀ schema, r.selection schema = s.selection schema
  /-- The write check has the same result, down to the names it reports. -/
  checkWrite : ∀ names, r.checkWrite names = s.checkWrite names
  /-- The same records are seen. -/
  seesRecord : ∀ record, r.seesRecord record = s.seesRecord record
  /-- The same records are kept. -/
  filterRecords : ∀ records, r.filterRecords records = s.filterRecords records
  /-- The predicate selects the same records. -/
  predicate : ∀ record, r.predicate.selects record = s.predicate.selects record

/-- **Requests each of which is within the other** get the same answers. -/
theorem IsWithin.answersAlike (h : r.IsWithin s) (h' : s.IsWithin r)
    (htype : r.entityType = s.entityType) : r.AnswersAlike s := by
  have hfield : ∀ field, r.seesField field = s.seesField field := by
    intro field
    exact Bool.eq_iff_iff.2 ⟨h.seesField field, h'.seesField field⟩
  have hlisted : ∀ schema field,
      field ∈ r.accessibleFields schema ↔ field ∈ s.accessibleFields schema := by
    intro schema field
    exact ⟨h.accessibleFields schema field, h'.accessibleFields schema field⟩
  constructor
  case isAllowed => exact Bool.eq_iff_iff.2 ⟨h.isAllowed, h'.isAllowed⟩
  case seesField => exact hfield
  case accessibleFields =>
    intro schema
    exact (List.perm_ext_iff_of_nodup (listsOnce_accessibleFields r schema).nodup
      (listsOnce_accessibleFields s schema).nodup).2 (hlisted schema)
  case project =>
    intro record
    apply Dict.ext_value
    intro field value
    exact ⟨h.project record field value, h'.project record field value⟩
  case selection =>
    intro schema
    apply NameSet.ext_has
    intro field
    rw [has_selection, has_selection]
    simp only [hlisted]
  case checkWrite =>
    intro names
    simp only [Request.checkWrite, hfield, htype]
  case seesRecord =>
    intro record
    exact Bool.eq_iff_iff.2 ⟨h.seesRecord record, h'.seesRecord record⟩
  case filterRecords =>
    intro records
    exact (h.filterRecords records).antisymm (h'.filterRecords records)
  case predicate =>
    intro record
    exact Bool.eq_iff_iff.2 ⟨h.predicate record, h'.predicate record⟩

/-! ## Other permissions of one principal -/

/-- The same request of a principal that differs only in its permissions. -/
def withPermissions (r : Request) (permissions : List Permission) : Request :=
  { r with principal := { r.principal with permissions } }

/-- Permissions that count are still there if those that grant the action are. For a superuser
there is only the one that restricts nothing. -/
theorem permissions_subset {given other : List Permission}
    (h : ∀ p ∈ given, p.grants r.action r.entityType = true → p ∈ other) :
    (r.withPermissions given).permissions ⊆ (r.withPermissions other).permissions := by
  intro p hp
  by_cases hsuper : r.principal.isSuperuser = true
  · simpa [permissions, withPermissions, hsuper] using hp
  · simp only [permissions, withPermissions, hsuper, Bool.false_eq_true, if_false,
      List.mem_filter] at hp ⊢
    exact ⟨h p hp.1 hp.2, hp.2⟩

theorem isWithin_withPermissions {given other : List Permission}
    (h : ∀ p ∈ given, p.grants r.action r.entityType = true → p ∈ other) :
    (r.withPermissions given).IsWithin (r.withPermissions other) :=
  isWithin_of_subset rfl rfl (permissions_subset h)

/-- **Permissions only add, and only the set of those that count matters.** Give a principal other
permissions, in any order, repeated and mixed with any that do not count. If among them are all
permissions it had that grant the action, it may do whatever it did before. If those that grant
the action are the same as before, it gets the same answers as before. -/
theorem isWithin_answersAlike_withPermissions (r : Request) (other : List Permission) :
    ((∀ p ∈ r.principal.permissions, p.grants r.action r.entityType = true → p ∈ other) →
      r.IsWithin (r.withPermissions other)) ∧
    ((∀ p, p.grants r.action r.entityType = true →
        (p ∈ r.principal.permissions ↔ p ∈ other)) →
      r.AnswersAlike (r.withPermissions other)) := by
  have hself : r.withPermissions r.principal.permissions = r := rfl
  constructor
  · intro h
    exact hself ▸ isWithin_withPermissions h
  · intro h
    have hless : (r.withPermissions r.principal.permissions).IsWithin (r.withPermissions other) :=
      isWithin_withPermissions fun p hp hgrants => (h p hgrants).1 hp
    have hmore : (r.withPermissions other).IsWithin (r.withPermissions r.principal.permissions) :=
      isWithin_withPermissions fun p hp hgrants => (h p hgrants).2 hp
    exact hself ▸ hless.answersAlike hmore rfl

end Request

/-! ### A badge office -/

/-- A permission to read one field of employees. -/
def showField (field : String) : Permission where
  entityType := "employees"
  actions := ["read"]
  fields := some { allowed := some [field] }

/-- A permission that does not count for employees. -/
def vehiclePermission : Permission where
  entityType := "vehicles"
  actions := ["read"]

/-- A request to read employees with some permissions. -/
def badgeRequest (permissions : List Permission) : Request where
  principal := { id := "u-1", permissions }
  action := "read"
  entityType := "employees"

/-- With one field more a request may do more; with the same two fields in another order, one of
them twice and beside a permission that does not count, it gets the same answers, although the
fields are listed in the other order. -/
theorem answersAlike_badgeRequest :
    (badgeRequest [showField "name"]).IsWithin
        (badgeRequest [showField "name", showField "photo"]) ∧
      (badgeRequest [showField "name", showField "photo"]).AnswersAlike
        (badgeRequest [showField "photo", vehiclePermission, showField "name",
          showField "photo"]) ∧
      (badgeRequest [showField "name", showField "photo"]).accessibleFields ["id"] =
        ["name", "photo"] ∧
      (badgeRequest [showField "photo", vehiclePermission, showField "name",
          showField "photo"]).accessibleFields ["id"] = ["photo", "name"] := by
  have hmore : ∀ p ∈ (badgeRequest [showField "name"]).principal.permissions,
      p.grants "read" "employees" = true → p ∈ [showField "name", showField "photo"] := by
    intro p hp _
    exact List.mem_cons.2 (.inl (List.mem_singleton.1 hp))
  have hsame : ∀ p : Permission, p.grants "read" "employees" = true →
      (p ∈ (badgeRequest [showField "name", showField "photo"]).principal.permissions ↔
        p ∈ [showField "photo", vehiclePermission, showField "name", showField "photo"]) := by
    intro p hgrants
    have hne : p ≠ vehiclePermission := by
      rintro rfl
      exact absurd hgrants (by decide)
    simp only [badgeRequest, List.mem_cons, List.not_mem_nil, or_false, hne, false_or]
    constructor
    · rintro (h | h)
      · exact .inr (.inl h)
      · exact .inl h
    · rintro (h | h | h)
      · exact .inr h
      · exact .inl h
      · exact .inr h
  obtain ⟨hwithin, -⟩ :=
    Request.isWithin_answersAlike_withPermissions (badgeRequest [showField "name"])
      [showField "name", showField "photo"]
  obtain ⟨-, halike⟩ :=
    Request.isWithin_answersAlike_withPermissions
      (badgeRequest [showField "name", showField "photo"])
      [showField "photo", vehiclePermission, showField "name", showField "photo"]
  exact ⟨hwithin hmore, halike hsame, by decide, by decide⟩

end AccessPolicy
