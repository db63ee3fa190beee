/-
# Pointers into a document

A local reference names a place in the document by a pointer: the keys on the way, separated by
slashes, with slash and tilde written as escapes.
-/

import TypedClient.Json.Basic
import TypedClient.Text.Lines

namespace TypedClient

namespace Json

/-- A key of a pointer with its escapes undone. -/
def unescapeKey : List Char → List Char
  | [] => []
  | '~' :: '1' :: rest => '/' :: unescapeKey rest
  | '~' :: '0' :: rest => '~' :: unescapeKey rest
  | c :: rest => c :: unescapeKey rest

/-- The position a key stands for in an array: digits without a leading zero. -/
def arrayIndex? (key : String) : Option Nat :=
  match key.toList with
  | [] => none
  | ['0'] => some 0
  | first :: rest =>
    if first != '0' && (first :: rest).all Char.isDigit then key.toNat? else none

/-- The part of a value under a key. -/
def child? (key : String) : Json → Option Json
  | .object members => members.lookup key
  | .array items => (arrayIndex? key).bind (items[·]?)
  | _ => none

/-- The part of a value a pointer leads to. -/
def pointer? (value : Json) (pointer : String) : Option Json :=
  match Text.splitOn (· == '/') pointer.toList with
  | [[]] => some value
  | [] :: keys =>
    keys.foldlM (fun here key => child? (String.ofList (unescapeKey key)) here) value
  | _ => none

/-- Follows the local reference of a value, and that of what it leads to, for at most `hops`
steps. A reference that leads nowhere is left as it is. -/
def dereference (root : Json) : (hops : Nat) → Json → Json
  | 0, value => value
  | hops + 1, value =>
    match (value.getString? "$ref").bind (Text.dropStart? · "#") with
    | none => value
    | some pointer =>
      match root.pointer? pointer with
      | none => value
      | some target => dereference root hops target

end Json

end TypedClient
