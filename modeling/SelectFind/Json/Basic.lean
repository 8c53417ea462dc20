/-!
# JSON values

A number is kept as it is written, so that no digit is lost and a whole number can be told from a
fraction. An object keeps its fields in the order written, and of several fields of one name the
last counts.
-/

namespace SelectFind

/-- A JSON value. -/
inductive Json where
  | null
  | bool (value : Bool)
  | number (literal : String)
  | string (value : String)
  | array (items : List Json)
  | object (fields : List (String × Json))

namespace Json

/-- The fields of an object. -/
def fields? : Json → Option (List (String × Json))
  | object fields => some fields
  | _ => none

/-- The items of an array. -/
def items? : Json → Option (List Json)
  | array items => some items
  | _ => none

/-- The text of a string. -/
def text? : Json → Option String
  | string s => some s
  | _ => none

/-- The value of a truth value. -/
def truth? : Json → Option Bool
  | bool b => some b
  | _ => none

/-- The value of the field `name`; of several, the last counts. -/
def field? (fields : List (String × Json)) (name : String) : Option Json :=
  fields.reverse.lookup name

/-- The one field of an object, with its name; of several entries of that name, the last counts. -/
def soleField? (fields : List (String × Json)) : Option (String × Json) :=
  match fields.getLast? with
  | some field => if fields.all (·.1 == field.1) then some field else none
  | none => none

end Json
end SelectFind
