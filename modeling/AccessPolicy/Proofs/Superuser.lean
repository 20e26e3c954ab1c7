import AccessPolicy.Proofs.FieldAccess
import AccessPolicy.Proofs.SameAnswers
import Mathlib.Data.Finset.Dedup
import Mathlib.Data.Fintype.EquivFin
import Mathlib.Data.String.Defs

/-!
# Superusers

No rule applies to a superuser. That is said in three ways: some decisions stop before they look at
a permission, others go by one permission that restricts nothing, and the checks for a role ask for
the role or a superuser. In each way the answer is the most that can be given, whatever else the
principal has: permissions that deny, conditions that no record passes, roles or attributes.

Nobody else gets all of these answers, since every other principal lacks some role. And as the
answers leave nothing open, any two superusers get the same ones.

## Main definitions

* `Request.IsUnrestricted` — every operation allows all that it is asked for.
* `Principal.BypassesRules` — so it is for all requests, and all checks for roles are passed.

## Main statements

* `Request.isUnrestricted_of_isSuperuser` — what a superuser may do.
* `Principal.isSuperuser_iff_bypassesRules` — superusers bypass every rule, and nobody else does.
-/
namespace AccessPolicy

namespace Request

/-- Every operation allows all that it is asked for. -/
structure IsUnrestricted (r : Request) : Prop where
  /-- The one permission that counts restricts neither fields nor records. -/
  permissions : r.permissions = [unrestricted]
  /-- The action is allowed. -/
  isAllowed : r.isAllowed = true
  /-- The gate lets the action through, whether denials are enforced or not. -/
  require : ∀ mode, r.require mode = .ok ()
  /-- Every field is seen. -/
  seesField : ∀ field, r.seesField field = true
  /-- The whole schema is listed, but for later repetitions. -/
  accessibleFields : ∀ schema, r.accessibleFields schema = schema.eraseDups
  /-- A store is asked for the whole schema, and for the identifier if there is none. -/
  selection : ∀ schema, r.selection schema =
    if schema = [] then .ofList ["id"] else .ofList schema
  /-- A record is left as it is. -/
  project : ∀ record, r.project record = record
  /-- Records are left as they are. -/
  projectAll : ∀ records, r.projectAll records = records
  /-- Every name is accepted for writing. -/
  checkWrite : ∀ names, r.checkWrite names = .ok ()
  /-- Every record is seen. -/
  seesRecord : ∀ record, r.seesRecord record = true
  /-- All records are kept. -/
  filterRecords : ∀ records, r.filterRecords records = records
  /-- The predicate is the one that selects everything. -/
  predicate : r.predicate = .all

variable {r s : Request}

/-- **A superuser gets the most that can be given** of every operation. -/
theorem isUnrestricted_of_isSuperuser (h : r.principal.isSuperuser = true) :
    r.IsUnrestricted := by
  have hpermissions : r.permissions = [unrestricted] := by
    rw [permissions, if_pos h]
  have hallowed : r.isAllowed = true := by
    rw [isAllowed, h, Bool.true_or]
  have hfield : ∀ field, r.seesField field = true := by
    intro field
    rw [seesField, hpermissions]
    rfl
  have hlisted : ∀ schema, r.accessibleFields schema = schema.eraseDups := by
    intro schema
    rw [accessibleFields, hpermissions, List.flatMap_singleton]
    rfl
  have hproject : ∀ record, r.project record = record := by
    intro record
    exact project_eq_self fun field _ => hfield field
  constructor
  case permissions => exact hpermissions
  case isAllowed => exact hallowed
  case require =>
    intro mode
    simp [require, Mode.enforce, hallowed]
  case seesField => exact hfield
  case accessibleFields => exact hlisted
  case selection =>
    intro schema
    apply NameSet.ext_has
    intro field
    rw [has_selection, hlisted]
    by_cases hschema : schema = []
    · rw [if_pos hschema, NameSet.has_ofList, hschema]
      simp
    · rw [if_neg hschema, NameSet.has_ofList]
      simp [List.mem_eraseDups, List.eq_nil_iff_forall_not_mem.not.1 hschema]
  case project => exact hproject
  case projectAll =>
    intro records
    rw [projectAll, funext hproject]
    exact List.map_id' records
  case checkWrite =>
    intro names
    exact checkWrite_eq_ok_iff.2 fun name _ => hfield name
  case seesRecord =>
    intro record
    rw [seesRecord, h, Bool.true_or]
  case filterRecords =>
    intro records
    rw [filterRecords, if_pos h]
  case predicate => rw [predicate, if_pos h]

/-- **Nothing is left open**: two unrestricted requests for the same get the same answers. -/
theorem IsUnrestricted.sameAnswers (hr : r.IsUnrestricted) (hs : s.IsUnrestricted)
    (haction : s.action = r.action) (htype : s.entityType = r.entityType) : r.SameAnswers s := by
  have hpermissions : s.permissions = r.permissions := by
    rw [hr.permissions, hs.permissions]
  refine sameAnswers_of_fields haction htype ?_ ?_ ?_
  · rw [hpermissions]
  · rw [hpermissions]
  · rw [hr.predicate, hs.predicate]

end Request

namespace Principal

/-- No rule applies to the principal: it passes every check for a role, and its requests are
unrestricted, whatever they are about. -/
structure BypassesRules (p : Principal) : Prop where
  /-- It passes the check for any role. -/
  holdsRole : ∀ role, p.holdsRole role = true
  /-- It passes the check for one of some roles, even of none. -/
  holdsAnyRole : ∀ roles, p.holdsAnyRole roles = true
  /-- It passes the check for all of some roles. -/
  holdsAllRoles : ∀ roles, p.holdsAllRoles roles = true
  /-- Its requests are unrestricted. -/
  requests : ∀ action entityType, Request.IsUnrestricted ⟨p, action, entityType⟩

/-- There is always a role that a principal does not have, since it has finitely many. -/
theorem exists_not_hasRole (p : Principal) : ∃ role, p.hasRole role = false := by
  obtain ⟨role, hrole⟩ := Infinite.exists_notMem_finset p.roles.keys.toFinset
  refine ⟨role, ?_⟩
  rw [← Bool.not_eq_true]
  intro hhas
  obtain ⟨value, hvalue⟩ := Option.isSome_iff_exists.1 hhas
  exact hrole (List.mem_toFinset.2 (List.mem_map_of_mem (Dict.get?_eq_some_iff.1 hvalue)))

/-- **Superusers bypass every rule**, whatever else they have, and nobody else does. So any two
superusers pass the same checks for roles and get the same answers to every request. -/
theorem isSuperuser_iff_bypassesRules (p : Principal) :
    (p.isSuperuser = true ↔ p.BypassesRules) ∧
      ∀ q : Principal, p.isSuperuser = true → q.isSuperuser = true →
        (∀ role, q.holdsRole role = p.holdsRole role) ∧
        (∀ roles, q.holdsAnyRole roles = p.holdsAnyRole roles) ∧
        (∀ roles, q.holdsAllRoles roles = p.holdsAllRoles roles) ∧
        ∀ action entityType,
          Request.SameAnswers ⟨p, action, entityType⟩ ⟨q, action, entityType⟩ := by
  have hbypass : ∀ q : Principal, q.isSuperuser = true → q.BypassesRules := by
    intro q hq
    constructor
    case holdsRole => simp [holdsRole, hq]
    case holdsAnyRole => simp [holdsAnyRole, hq]
    case holdsAllRoles => simp [holdsAllRoles, hq]
    case requests => exact fun _ _ => Request.isUnrestricted_of_isSuperuser hq
  refine ⟨⟨hbypass p, ?_⟩, ?_⟩
  · intro h
    obtain ⟨role, hrole⟩ := p.exists_not_hasRole
    have hholds := h.holdsRole role
    rwa [holdsRole, hrole, Bool.or_false] at hholds
  · intro q hp hq
    have hbp := hbypass p hp
    have hbq := hbypass q hq
    refine ⟨?_, ?_, ?_, ?_⟩
    · intro role
      rw [hbq.holdsRole, hbp.holdsRole]
    · intro roles
      rw [hbq.holdsAnyRole, hbp.holdsAnyRole]
    · intro roles
      rw [hbq.holdsAllRoles, hbp.holdsAllRoles]
    · intro action entityType
      exact (hbp.requests action entityType).sameAnswers (hbq.requests action entityType) rfl rfl

end Principal

/-! ### A superuser whose permissions deny -/

/-- A principal whose only permission shows no field and accepts no record. -/
def lockedOut (isSuperuser : Bool) : Principal where
  id := "u-1"
  isSuperuser := isSuperuser
  permissions :=
    [ { entityType := "employees"
        actions := ["read"]
        fields := some { allowed := some [] }
        conditions := some <| .ofList
          [("department", ⟨.known .eq, .reference ["user", "department"]⟩)] } ]

/-- A superuser with that permission bypasses every rule and cannot be told from one without any;
the same principal is restricted as soon as it is no superuser. -/
theorem bypassesRules_lockedOut :
    (lockedOut true).BypassesRules ∧ ¬ (lockedOut false).BypassesRules ∧
      Request.SameAnswers ⟨lockedOut true, "read", "employees"⟩
        ⟨{ id := "root", isSuperuser := true }, "read", "employees"⟩ := by
  obtain ⟨hbypass, hsame⟩ := Principal.isSuperuser_iff_bypassesRules (lockedOut true)
  obtain ⟨hrestricted, -⟩ := Principal.isSuperuser_iff_bypassesRules (lockedOut false)
  refine ⟨hbypass.1 rfl, fun h => Bool.false_ne_true (hrestricted.2 h), ?_⟩
  exact (hsame { id := "root", isSuperuser := true } rfl rfl).2.2.2 "read" "employees"

end AccessPolicy
