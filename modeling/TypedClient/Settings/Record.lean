/-
# Reading records from data

Settings arrive as data: an object with named fields, or a list of the fields in order. A field that
is missing takes its default, unknown fields are passed over, and a field of the wrong type refuses
the whole record.
-/

import TypedClient.Number.Word
import TypedClient.Json.Basic

namespace TypedClient.Record

/-- How a record read from a list treats items beyond its fields. -/
inductive ExtraItems where
  | refused
  | ignored
  deriving DecidableEq, Repr

/-- The values of a record's fields by name. -/
abbrev Fields := String → Option Json

/-- The fields of a record with the given field names. -/
def fields? (extra : ExtraItems) (names : List String) : Json → Option Fields
  | .object members => some fun name => members.lookup name
  | .array items =>
    if extra = .refused && items.length > names.length then none
    else some fun name => (names.zip items).lookup name
  | _ => none

/-- A field, or its default. -/
def field {α : Type} (fields : Fields) (name : String) (default : α) (read : Json → Option α) :
    Option α :=
  match fields name with
  | some value => read value
  | none => some default

/-- A field that has to be there. -/
def required {α : Type} (fields : Fields) (name : String) (read : Json → Option α) : Option α :=
  (fields name).bind read

/-- A value that may be null. -/
def nullable {α : Type} (read : Json → Option α) : Json → Option (Option α)
  | .null => some none
  | value => (read value).map some

/-- A natural number of 64 bits. -/
def natural? : Json → Option Nat
  | .number (.whole n) => if Number.fitsUnsigned 64 n then some n.toNat else none
  | _ => none

/-- A list of values of one type. -/
def list? {α : Type} (read : Json → Option α) : Json → Option (List α)
  | .array items => items.mapM read
  | _ => none

/-- One of several names, as text or as an object whose only member is null. -/
def choice? {α : Type} (ofName : String → Option α) : Json → Option α
  | .string name => ofName name
  | .object [(name, .null)] => ofName name
  | _ => none

end TypedClient.Record
