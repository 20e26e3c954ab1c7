import AccessPolicy.Fault
import AccessPolicy.Text.Lower

/-!
# Modes of enforcement

A denial is enforced only in strict mode. In the other modes the gate lets everything through.

## Main definitions

* `Mode` — off, advisory and strict.
* `Mode.parse` — the mode with a name.
* `Mode.ofVariable` — the mode set by a variable of the environment.
* `Mode.enforce` — the effect of a decision.
-/
namespace AccessPolicy

/-- How decisions of the gate are enforced. -/
inductive Mode where
  /-- Nothing is denied. -/
  | off
  /-- Denials are noted, and nothing is denied. -/
  | advisory
  /-- Denials are enforced. -/
  | strict
deriving DecidableEq

namespace Mode

/-- The name of a mode. -/
def name : Mode → String
  | off => "off"
  | advisory => "advisory"
  | strict => "strict"

/-- The text without white space at its ends and in lower case, in which a mode is named. -/
def normalize (s : String) : String := Text.lower (Text.trim s)

/-- The mode with a name. -/
def parse (s : String) : Except Fault Mode :=
  match [off, advisory, strict].find? (·.name = normalize s) with
  | some mode => .ok mode
  | none =>
    .error <| .configuration <|
      "AUTHZ_MODE must be one of off, advisory, strict (got \x60" ++ normalize s ++ "\x60)"

/-- The mode set by a variable. One that is not set, or that names no mode, means strict. -/
def ofVariable (value : Option String) : Mode :=
  match value.map parse with
  | some (.ok mode) => mode
  | _ => strict

/-- Turns a decision about something into the result of the gate. -/
def enforce (mode : Mode) (allowed : Bool) (what : String) : Except Fault Unit :=
  if allowed || mode ≠ strict then .ok () else .error (.forbidden what)

end Mode

end AccessPolicy
