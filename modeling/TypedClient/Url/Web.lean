/-
# URLs of web documents

Which texts are complete URLs with the scheme `http` or `https`, so that what they name is fetched
and not read from a file. Reading is lenient about white space and slashes.
-/

import TypedClient.Url.Host

namespace TypedClient.Url

/-- Whether a character at an end of the text does not count. -/
def isPadding (c : Char) : Bool := c.toNat ≤ 0x20

/-- Whether a character does not count wherever it stands. -/
def isBreak (c : Char) : Bool := c = '\t' || c = '\n' || c = '\r'

/-- The characters of a text that count. -/
def significant (cs : List Char) : List Char :=
  (Text.dropEndWhile isPadding (cs.dropWhile isPadding)).filter (!isBreak ·)

/-- Whether a character may stand in a scheme after its first letter. -/
def isSchemeChar (c : Char) : Bool := Text.isAsciiAlphanumeric c || c = '+' || c = '-' || c = '.'

/-- The scheme before the first colon, in lower case, and what comes after the colon. -/
def scheme? (cs : List Char) : Option (String × List Char) :=
  match Text.splitOnce (· = ':') cs with
  | some (c :: name, rest) =>
    if c.isAlpha && name.all isSchemeChar then
      some (String.ofList ((c :: name).map Char.toLower), rest)
    else none
  | _ => none

/-- Whether a character is a slash of either kind. -/
def isSlash (c : Char) : Bool := c = '/' || c = '\\'

/-- Whether a character ends the part of a URL that names the host. -/
def endsAuthority (c : Char) : Bool := isSlash c || c = '?' || c = '#'

/-- The text after the last at sign. -/
def withoutUser (cs : List Char) : List Char :=
  (cs.reverse.takeWhile (· ≠ '@')).reverse

/-- A host and what comes after the first colon that is outside of brackets. -/
def splitService : (inBrackets : Bool) → List Char → List Char × List Char
  | _, [] => ([], [])
  | inBrackets, c :: rest =>
    if c = ':' && !inBrackets then ([], rest)
    else
      let (host, service) := splitService (c = '[' || (inBrackets && c ≠ ']')) rest
      (c :: host, service)

/-- Whether a text numbers a service of a host; no digits stand for the usual one. -/
def isService (cs : List Char) : Bool :=
  cs.all Char.isDigit && (numberIn? 10 cs).any (· < 65536)

/-- Whether a text is the URL of a web document. -/
def isWeb (s : String) : Bool :=
  match scheme? (significant s.toList) with
  | some (scheme, rest) =>
    let authority := (rest.dropWhile isSlash).takeWhile (!endsAuthority ·)
    let (host, service) := splitService false (withoutUser authority)
    (scheme = "http" || scheme = "https") && isHost host && isService service
  | none => false

end TypedClient.Url
