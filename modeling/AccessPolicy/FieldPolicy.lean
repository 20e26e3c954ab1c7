import AccessPolicy.Json.Decoder

/-!
# Field policies

A field policy names the fields of a record that may be seen, or those that may not.

## Main definitions

* `FieldPolicy` — a list of allowed and a list of denied fields, either of them optional.
* `FieldPolicy.permits` — whether a field may be seen.
* `FieldPolicy.accessible` — the fields of a schema that may be seen.
* `FieldPolicy.project` — the part of a record that may be seen.
-/
namespace AccessPolicy

/-- Which fields may be seen. The two lists are not meant to be combined. -/
structure FieldPolicy where
  /-- The only fields that may be seen. -/
  allowed : Option (List String) := none
  /-- Fields that may not be seen. -/
  denied : Option (List String) := none
deriving DecidableEq

namespace FieldPolicy

/-- Whether a field may be seen; no policy permits every field. A denied field is never
permitted, and a list of allowed fields permits nothing else. -/
def permits (policy : Option FieldPolicy) (field : String) : Bool :=
  policy.all fun p =>
    !(p.denied.any (·.contains field)) && p.allowed.all (·.contains field)

/-- The fields of a schema that may be seen. A list of allowed fields is given as it is written,
whatever the schema and the denied fields. -/
def accessible (policy : Option FieldPolicy) (schema : List String) : List String :=
  match policy with
  | none => schema
  | some ⟨some allowed, _⟩ => allowed
  | some ⟨none, some denied⟩ => schema.filter (!denied.contains ·)
  | some ⟨none, none⟩ => schema

/-- The part of a record that may be seen. -/
def project (policy : Option FieldPolicy) (record : Record) : Record :=
  record.filter fun field _ => permits policy field

/-! ## The form in policy data -/

/-- An optional entry of an object: nothing if the value is absent. -/
def optionalEntry (key : String) (value : Option (List String)) : List (String × Json) :=
  match value with
  | none => []
  | some texts => [(key, .ofTexts texts)]

/-- The value that writes a policy. Absent lists are left out. -/
def toJson (p : FieldPolicy) : Json :=
  .ofFields (optionalEntry "allowed" p.allowed ++ optionalEntry "denied" p.denied)

/-- A policy whose fields are still being read. -/
structure Draft where
  allowed : Option (Option (List String)) := none
  denied : Option (Option (List String)) := none

/-- The fields of a policy. -/
def layout : Layout Draft :=
  [ .of "allowed" Draft.allowed (fun s v => { s with allowed := some v })
      (.optional (.list .text)),
    .of "denied" Draft.denied (fun s v => { s with denied := some v })
      (.optional (.list .text)) ]

/-- A policy inside a document. -/
def decoder : Decoder FieldPolicy := fun p d =>
  (fun s => ⟨s.allowed.join, s.denied.join⟩) <$> layout.read {} p d

end FieldPolicy

end AccessPolicy
