import AccessPolicy.Dict
import AccessPolicy.Number.Basic

/-!
# JSON values

Records, attributes and the operands of conditions are JSON values. An object is a list of
fields in ascending order of the keys; `Json.ofDict` and `Json.ofFields` build one in that
form.

## Main definitions

* `Json` — the values.
* `Record` — the fields of an object, the unit that is filtered and tested.
* `Json.field?`, `Json.at?` — the value under a key and at the end of a path of keys.
* `Json.same` — sameness of values, which keeps integers and other numbers apart.
-/
namespace AccessPolicy

/-- A JSON value. -/
inductive Json where
  | null
  | bool (b : Bool)
  | number (n : Number)
  | string (s : String)
  | array (items : List Json)
  | object (fields : List (String × Json))
deriving Inhabited

/-- A stored entity: field names with values. -/
abbrev Record := Dict Json

namespace Json

/-- The object with the fields of a dictionary. -/
def ofDict (d : Dict Json) : Json := object d.entries

/-- The object with the given fields; of two with one key the later one counts. -/
def ofFields (fields : List (String × Json)) : Json := ofDict (Dict.ofList fields)

/-- The array of the given texts. -/
def ofTexts (texts : List String) : Json := array (texts.map string)

/-- The fields, if the value is an object. -/
def record? : Json → Option Record
  | object fields => some (Dict.ofList fields)
  | _ => none

/-- The value under a key, if the value is an object that has the key. -/
def field? (key : String) : Json → Option Json
  | object fields => Dict.valueAt? key fields
  | _ => none

/-- The value at the end of a path of keys through nested objects. -/
def at? : List String → Json → Option Json
  | [], v => some v
  | key :: path, v => (v.field? key).bind (at? path)

/-- Whether a value is an array or an object. -/
def isStructured : Json → Bool
  | array _ => true
  | object _ => true
  | _ => false

/-- The name of a value's kind. -/
def kindName : Json → String
  | null => "null"
  | bool _ => "bool"
  | number _ => "number"
  | string _ => "string"
  | array _ => "array"
  | object _ => "object"

mutual

/-- Whether two values are the same. An integer is never the same as a number written with
a fraction. -/
def same : Json → Json → Bool
  | null, null => true
  | bool a, bool b => a = b
  | number a, number b => a.same b
  | string a, string b => a = b
  | array as, array bs => sameItems as bs
  | object as, object bs => sameFields as bs
  | _, _ => false

/-- Whether two lists of values are the same, item by item. -/
def sameItems : List Json → List Json → Bool
  | [], [] => true
  | a :: as, b :: bs => same a b && sameItems as bs
  | _, _ => false

/-- Whether two lists of fields are the same, field by field. -/
def sameFields : List (String × Json) → List (String × Json) → Bool
  | [], [] => true
  | (k, a) :: as, (l, b) :: bs => k = l && same a b && sameFields as bs
  | _, _ => false

end

end Json

end AccessPolicy
