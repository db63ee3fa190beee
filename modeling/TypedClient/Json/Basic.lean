/-
# JSON values

A JSON tree whose objects keep the order in which their keys first appeared. That order is what
generated declarations, parameters and samples follow.
-/

import TypedClient.Number.Double

namespace TypedClient

/-- A JSON number: a whole number of 64 bits, signed or unsigned, or a double. -/
inductive JsonNumber where
  | whole (value : Int)
  | double (value : Double)
  deriving DecidableEq, Repr

/-- A JSON value. The keys of an object are distinct and in order of first appearance. -/
inductive Json where
  | null
  | bool (value : Bool)
  | number (value : JsonNumber)
  | string (value : String)
  | array (items : List Json)
  | object (members : List (String × Json))
  deriving Repr, Inhabited

namespace Json

/-- A whole number. -/
def ofInt (n : Int) : Json := .number (.whole n)

/-- The text of a string value. -/
def string? : Json → Option String
  | .string s => some s
  | _ => none

/-- The truth value of a boolean. -/
def bool? : Json → Option Bool
  | .bool b => some b
  | _ => none

/-- The items of an array. -/
def array? : Json → Option (List Json)
  | .array items => some items
  | _ => none

/-- The members of an object. -/
def object? : Json → Option (List (String × Json))
  | .object members => some members
  | _ => none

/-- Whether a value is null. -/
def isNull : Json → Bool
  | .null => true
  | _ => false

/-- Whether a value is an object. -/
def isObject : Json → Bool
  | .object _ => true
  | _ => false

/-- The member of an object under a key. Anything else has no members. -/
def get? (key : String) : Json → Option Json
  | .object members => members.lookup key
  | _ => none

/-- The text under a key, if it is text. -/
def getString? (key : String) (value : Json) : Option String :=
  (value.get? key).bind string?

/-- Sets a member: an existing key keeps its place and takes the new value, a new key goes last. -/
def setMember (key : String) (value : Json) : List (String × Json) → List (String × Json)
  | [] => [(key, value)]
  | (k, v) :: rest =>
    if k = key then (key, value) :: rest else (k, v) :: setMember key value rest

/-- The members of an object written as a sequence of members, in which a key may be repeated. -/
def collectMembers (written : List (String × Json)) : List (String × Json) :=
  written.foldl (fun members (key, value) => setMember key value members) []

end Json

end TypedClient
