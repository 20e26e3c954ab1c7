import AccessPolicy.Permission

/-!
# Principals

A principal is the actor on whose behalf data is requested, with all the permissions that its
roles amount to. Its data is the context of the conditions.

## Main definitions

* `Principal` — identity, attributes, roles and permissions.
* `Principal.context` — the value that references in conditions are resolved in.
* `Principal.holdsRole` — the role checks, which a superuser always passes.
* `Principal.toJson`, `Principal.decoder` — the form in snapshots.
-/
namespace AccessPolicy

/-- An actor with its permissions. -/
structure Principal where
  /-- The identifier. -/
  id : String := ""
  /-- The address, empty if there is none. -/
  email : String := ""
  /-- The department. -/
  department : Option String := none
  /-- The location. -/
  location : Option String := none
  /-- The roles. -/
  roles : NameSet := .empty
  /-- Whether no rule applies. -/
  isSuperuser : Bool := false
  /-- The permissions, without the roles that they come from. -/
  permissions : List Permission := []
  /-- Further attributes. -/
  attributes : Dict Json := .empty

namespace Principal

/-! ## Building -/

/-- The principal with the given roles. -/
def withRoles (p : Principal) (roles : List String) : Principal :=
  { p with roles := .ofList roles }

/-- The principal with one more attribute. An attribute of the same name is replaced. -/
def withAttribute (p : Principal) (name : String) (value : Json) : Principal :=
  { p with attributes := p.attributes.insert name value }

/-! ## Roles -/

/-- Whether the principal has a role of its own. -/
def hasRole (p : Principal) (role : String) : Bool := p.roles.has role

/-- Whether the principal passes a check for a role. -/
def holdsRole (p : Principal) (role : String) : Bool := p.isSuperuser || p.hasRole role

/-- Whether the principal passes a check for one of some roles. -/
def holdsAnyRole (p : Principal) (roles : List String) : Bool :=
  p.isSuperuser || roles.any p.hasRole

/-- Whether the principal passes a check for all of some roles. -/
def holdsAllRoles (p : Principal) (roles : List String) : Bool :=
  p.isSuperuser || roles.all p.hasRole

/-! ## The context -/

/-- Puts a text at a key if it is present. -/
def insertText (key : String) (value : Option String) (d : Dict Json) : Dict Json :=
  match value with
  | none => d
  | some s => d.insert key (.string s)

/-- The data of the principal under the keys that references use. Its own data goes before
attributes of the same names. What the principal does not have is left out, so a reference to
it leads nowhere. -/
def userData (p : Principal) : Dict Json :=
  (((p.attributes.insert "id" (.string p.id)
      |> insertText "email" (if p.email.isEmpty then none else some p.email)
      |> insertText "department" p.department
      |> insertText "location" p.location).insert
        "roles" (.ofTexts p.roles.toList)).insert
        "isSuperuser" (.bool p.isSuperuser))

/-- The value that references in conditions are resolved in. -/
def context (p : Principal) : Json := .object [("user", .ofDict p.userData)]

/-! ## The form in snapshots -/

/-- The value of a text that may be absent. -/
def textOrNull (s : Option String) : Json := (s.map Json.string).getD .null

/-- The value that writes a principal. Attributes are left out if there are none. -/
def toJson (p : Principal) : Json :=
  .ofFields <|
    [ ("id", .string p.id),
      ("email", .string p.email),
      ("department", textOrNull p.department),
      ("location", textOrNull p.location),
      ("roles", .ofTexts p.roles.toList),
      ("isSuperuser", .bool p.isSuperuser),
      ("permissions", .array (p.permissions.map Permission.toJson)) ] ++
    if p.attributes.isEmpty then [] else [("attributes", .ofDict p.attributes)]

/-- A principal whose fields are still being read. -/
structure Draft where
  id : Option String := none
  email : Option String := none
  department : Option (Option String) := none
  location : Option (Option String) := none
  roles : Option (List String) := none
  isSuperuser : Option Bool := none
  permissions : Option (List Permission) := none
  attributes : Option (Dict Json) := none

/-- An identifier: a text, or a number, which is kept as its text. It is read whole before its
kind is looked at. -/
def identifier : Decoder String := fun p d => do
  match ← Decoder.json p d with
  | .string s => pure s
  | .number n => pure n.render
  | other => p.fail (.badIdentifier other)

/-- The fields of a principal. -/
def layout : Layout Draft :=
  [ .of "id" Draft.id (fun s v => { s with id := some v }) identifier,
    .of "email" Draft.email (fun s v => { s with email := some v }) (.orDefault "" .text),
    .of "department" Draft.department (fun s v => { s with department := some v })
      (.optional .text),
    .of "location" Draft.location (fun s v => { s with location := some v })
      (.optional .text),
    .of "roles" Draft.roles (fun s v => { s with roles := some v })
      (.orDefault [] (.list .text)),
    .of "isSuperuser" Draft.isSuperuser (fun s v => { s with isSuperuser := some v })
      (.orDefault false .bool),
    .of "permissions" Draft.permissions (fun s v => { s with permissions := some v })
      (.orDefault [] (.list Permission.decoder)),
    .of "attributes" Draft.attributes (fun s v => { s with attributes := some v })
      (.orDefault .empty (.dict Decoder.json)) ]

/-- The principal of a draft that was read at a place. Only the identifier has no default. -/
def Draft.finish (s : Draft) (p : Place) : Except DecodeError Principal :=
  match s.id with
  | none => p.fail .noIdentifier
  | some id =>
    .ok
      { id
        email := s.email.getD ""
        department := s.department.join
        location := s.location.join
        roles := .ofList (s.roles.getD [])
        isSuperuser := s.isSuperuser.getD false
        permissions := s.permissions.getD []
        attributes := s.attributes.getD .empty }

/-- A principal inside a document. -/
def decoder : Decoder Principal := fun p d => do
  let draft ← layout.read {} p d
  draft.finish p

end Principal

end AccessPolicy
