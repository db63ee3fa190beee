/-
# Function names of operations

An operation is named by its identifier, or by its method and path if it has none.
-/

import TypedClient.Naming.Words
import TypedClient.Url.Template

namespace TypedClient.Naming

/-- A literal stretch of a path as words: each segment after an underscore. -/
def segmentWords (text : String) : List Char :=
  ((Text.splitOn (· == '/') text.toList).filter (!·.isEmpty)).flatMap ('_' :: ·)

/-- A part of a path as words; a placeholder reads as "by" its name. -/
def partWords : UrlPart → List Char
  | .literal text => segmentWords text
  | .placeholder name => "_by_".toList ++ name.toList

/-- The raw name of an operation without an identifier. -/
def fallbackName (method path : String) : String :=
  String.ofList
    (Text.lowercase method.toList ++ (UrlTemplate.parse path).parts.flatMap partWords)

/-- The function name of an operation under a naming policy. -/
def functionName (operationId? : Option String) (method path : String) (policy : NamingPolicy) :
    String :=
  applyPolicy (operationId?.getD (fallbackName method path)) policy

end TypedClient.Naming
