/-
# Hosts

What may stand for a host in the URL of a web page: an address, or a name in which escapes are read
and letter case, width and invisible characters do not count.
-/

import TypedClient.Text.CharClass
import TypedClient.Url.Address
import TypedClient.Url.Punycode

namespace TypedClient.Url

/-- Bytes with each escape, a percent sign and two hexadecimal digits, replaced by its byte. -/
def unescape : List Char → List UInt8
  | [] => []
  | '%' :: a :: b :: rest =>
    match Text.hexValue? a, Text.hexValue? b with
    | some high, some low => UInt8.ofNat (16 * high + low) :: unescape rest
    | _, _ => UInt8.ofNat '%'.toNat :: unescape (a :: b :: rest)
  | c :: rest => (String.ofList [c]).toUTF8.toList ++ unescape rest

/-- Characters that a host name does not see. -/
def ignoredRuns : List Text.CodeRun :=
  [⟨0xad, 0xad, 1⟩, ⟨0x34f, 0x34f, 1⟩, ⟨0x180b, 0x180d, 1⟩, ⟨0x180f, 0x180f, 1⟩,
    ⟨0x200b, 0x200b, 1⟩, ⟨0x2060, 0x2060, 1⟩, ⟨0x2064, 0x2064, 1⟩, ⟨0xfe00, 0xfe0f, 1⟩,
    ⟨0xfeff, 0xfeff, 1⟩, ⟨0xe0100, 0xe01ef, 1⟩]

/-- Characters that no host name has: invisible ones that count, private ones, those that stand for
no character, and those that are another way to write a space or a separator. -/
def refusedRuns : List Text.CodeRun :=
  [⟨0x80, 0xa0, 1⟩, ⟨0xa8, 0xa8, 1⟩, ⟨0xaf, 0xaf, 1⟩, ⟨0xb4, 0xb8, 4⟩, ⟨0x2d8, 0x2dd, 1⟩,
    ⟨0x37a, 0x37a, 1⟩, ⟨0x384, 0x385, 1⟩, ⟨0x61c, 0x61c, 1⟩, ⟨0x1680, 0x1680, 1⟩,
    ⟨0x180e, 0x180e, 1⟩, ⟨0x1fbd, 0x1fbd, 1⟩, ⟨0x1fbf, 0x1fc1, 1⟩, ⟨0x1fcd, 0x1fcf, 1⟩,
    ⟨0x1fdd, 0x1fdf, 1⟩, ⟨0x1fed, 0x1fef, 1⟩, ⟨0x1ffd, 0x1ffe, 1⟩, ⟨0x2000, 0x200a, 1⟩, ⟨0x200c, 0x200f, 1⟩,
    ⟨0x2017, 0x2017, 1⟩, ⟨0x2024, 0x2026, 1⟩, ⟨0x2028, 0x202f, 1⟩, ⟨0x203e, 0x203e, 1⟩,
    ⟨0x2047, 0x2049, 1⟩, ⟨0x205f, 0x205f, 1⟩, ⟨0x2061, 0x2063, 1⟩, ⟨0x2065, 0x206f, 1⟩,
    ⟨0x2100, 0x2101, 1⟩, ⟨0x2105, 0x2106, 1⟩, ⟨0x2488, 0x249b, 1⟩, ⟨0x2a74, 0x2a74, 1⟩,
    ⟨0x2ff0, 0x2fff, 1⟩, ⟨0x3000, 0x3000, 1⟩, ⟨0xe000, 0xf8ff, 1⟩, ⟨0xfdd0, 0xfdef, 1⟩,
    ⟨0xfdfa, 0xfdfb, 1⟩, ⟨0xfe12, 0xfe13, 1⟩, ⟨0xfe16, 0xfe19, 3⟩, ⟨0xfe30, 0xfe30, 1⟩,
    ⟨0xfe47, 0xfe4c, 1⟩, ⟨0xfe52, 0xfe52, 1⟩, ⟨0xfe55, 0xfe56, 1⟩, ⟨0xfe5b, 0xfe5c, 1⟩,
    ⟨0xfe5f, 0xfe5f, 1⟩, ⟨0xfe64, 0xfe65, 1⟩, ⟨0xfe68, 0xfe6a, 2⟩, ⟨0xfe6b, 0xfe6b, 1⟩,
    ⟨0xfe70, 0xfe7e, 2⟩, ⟨0xffa0, 0xffa0, 1⟩, ⟨0xffe3, 0xffe3, 1⟩, ⟨0xfff0, 0xffff, 1⟩,
    ⟨0xe0000, 0xe00ff, 1⟩, ⟨0xe01f0, 0x10ffff, 1⟩]

/-- Whether no host name has a character. The last two code points of each plane stand for none. -/
def isRefused (code : Nat) : Bool :=
  Text.CodeRun.anyContains refusedRuns code || 0xfffe ≤ code % 0x10000

/-- Other ways to write the dot between labels. -/
def isFullStop (c : Char) : Bool :=
  c = '。' || c = '．' || c = '｡'

/-- The characters that one character of a host name counts as, if it may be there. -/
def foldChar? (c : Char) : Option (List Char) :=
  let code := c.toNat
  if Text.isAscii c then some [c.toLower]
  else if isFullStop c then some ['.']
  else if 0xff01 ≤ code && code ≤ 0xff5e then some [(Char.ofNat (code - 0xfee0)).toLower]
  else if Text.CodeRun.anyContains ignoredRuns code then some []
  else if isRefused code then none
  else some [c]

/-- ASCII characters that no host name has. -/
def isForbidden (c : Char) : Bool :=
  Text.isAscii c &&
    (c.toNat ≤ 0x20 || c.toNat = 0x7f || "%#/:<>?@[\\]^\x60\x7b|\x7d".toList.contains c)

/-- Whether a label that says it is in its written form for ASCII is one. -/
def isLabel : List Char → Bool
  | 'x' :: 'n' :: '-' :: '-' :: encoded =>
    match Punycode.decode? encoded with
    | some decoded =>
      decoded.any (!Text.isAscii ·) &&
        decoded.all fun c => foldChar? c = some [c] && !Text.isUppercase c
    | none => false
  | _ => true

/-- Whether a folded name may stand for a host. -/
def isName (cs : List Char) : Bool :=
  cs ≠ [] && !cs.any isForbidden && (Text.splitOn (· = '.') cs).all isLabel &&
    (!endsInNumber cs || isDottedAddress cs)

/-- Whether a text may stand for a host. -/
def isHost (cs : List Char) : Bool :=
  match cs with
  | '[' :: rest => rest.getLast? = some ']' && isGroupedAddress rest.dropLast
  | _ =>
    match String.fromUTF8? ⟨(unescape cs).toArray⟩ with
    | some name => ((name.toList.mapM foldChar?).map List.flatten).any isName
    | none => false

end TypedClient.Url
