/-
# YAML tokens

What a YAML text is made of. Indentation shows as tokens that open and close block collections, and
a key is marked before it, also where only the colon after it tells that it is one.
-/

namespace TypedClient.Yaml

/-- A tag as written: a handle that stands for a beginning, and the text after it. -/
structure TagName where
  handle : String
  suffix : String
  deriving DecidableEq, Repr

/-- A token of a YAML text. -/
inductive Token where
  | streamEnd
  | versionDirective (major minor : Nat)
  | tagDirective (handle start : String)
  | documentStart
  | documentEnd
  | blockSequenceStart
  | blockMappingStart
  | blockEnd
  | flowSequenceStart
  | flowSequenceEnd
  | flowMappingStart
  | flowMappingEnd
  | blockEntry
  | flowEntry
  | key
  | value
  | alias (name : String)
  | anchor (name : String)
  | tag (name : TagName)
  /-- Text, and whether it stands without quotes. -/
  | scalar (text : String) (plain : Bool)
  deriving DecidableEq, Repr

end TypedClient.Yaml
