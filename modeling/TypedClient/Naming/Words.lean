/-
# Words of a name

A name is cut into words at its separators and at its case boundaries, and a naming policy puts the
words together again.
-/

import TypedClient.Naming.Identifier
import TypedClient.Naming.Policy
import TypedClient.Text.Case

namespace TypedClient.Naming

/-- Whether a word starts at an upper-case letter, given the character before it: after a
lower-case letter or a digit, and at the last capital of a row of capitals that goes on in lower
case. -/
def startsWord (before c : Char) (rest : List Char) : Bool :=
  Text.isUppercase c &&
    (Text.isLowercase before || before.isDigit ||
      (Text.isUppercase before && (rest.head?.map Text.isLowercase).getD false))

/-- The words of a stretch without separators, given the current word in reverse. -/
def wordsOfChunk : (current : List Char) → List Char → List (List Char)
  | [], [] => []
  | current, [] => [current.reverse]
  | [], c :: rest => wordsOfChunk [c] rest
  | before :: current, c :: rest =>
    if startsWord before c rest then
      (before :: current).reverse :: wordsOfChunk [c] rest
    else wordsOfChunk (c :: before :: current) rest

/-- The words of a name. -/
def splitWords (name : String) : List (List Char) :=
  (Text.splitOn (fun c => !Text.isAlphanumeric c) name.toList).flatMap (wordsOfChunk [])

/-- A word with a capital first letter and the rest in lower case. -/
def capitalize : List Char → List Char
  | [] => []
  | first :: rest => Text.upperOf first ++ rest.flatMap Text.lowerOf

/-- The words of a name under a policy, before the result is made legal. -/
def joinWords (name : String) : NamingPolicy → List Char
  | .preserve => flattenList name.toList
  | .snake => List.intercalate ['_'] ((splitWords name).map Text.lowercase)
  | .pascal => (splitWords name).flatMap capitalize
  | .camel =>
    match splitWords name with
    | [] => []
    | first :: rest => Text.lowercase first ++ rest.flatMap capitalize

/-- A raw name under a naming policy, as a legal identifier. -/
def applyPolicy (name : String) (policy : NamingPolicy) : String :=
  sanitize (String.ofList (joinWords name policy))

end TypedClient.Naming
