/-!
# JSON values

A number written with a fraction or an exponent, and a negative zero, is kept as its text: nothing
here computes with such numbers, and they are never integers.
-/

namespace AccessMobility

/-- A JSON value; the names of an object are distinct. -/
inductive Json where
  | null
  | bool (value : Bool)
  | integer (value : Int)
  | decimal (text : String)
  | string (value : String)
  | array (elements : List Json)
  | object (entries : List (String × Json))
  deriving Inhabited

namespace Json

/-- The entry of an object under a name. -/
def field? (json : Json) (name : String) : Option Json :=
  match json with
  | .object entries => entries.lookup name
  | _ => none

/-- Put a value under a name, replacing the one that was there. -/
def insertEntry (entries : List (String × Json)) (name : String) (value : Json) :
    List (String × Json) :=
  match entries with
  | [] => [(name, value)]
  | (other, old) :: rest =>
    if other = name then (name, value) :: rest else (other, old) :: insertEntry rest name value

/-- The entry of an optional member, left out when there is nothing to write. -/
def optional (name : String) (write : α → Json) (value : Option α) : List (String × Json) :=
  match value with
  | none => []
  | some value => [(name, write value)]

/-- Nothing is written as `null`. -/
def nullable (write : α → Json) (value : Option α) : Json :=
  match value with
  | none => .null
  | some value => write value

def listOf (write : α → Json) (values : List α) : Json :=
  .array (values.map write)

/-- The name of a variant without contents: a text, or an object whose single entry is `null`. -/
def variant? : Json → Option String
  | .string name => some name
  | .object [(name, .null)] => some name
  | _ => none

def bool? : Json → Option Bool
  | .bool value => some value
  | _ => none

end Json

end AccessMobility
