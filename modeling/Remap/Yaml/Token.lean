import Remap.Yaml.Block
import Remap.Yaml.Quoted
import Remap.Yaml.Tag

set_option relaxedAutoImplicit false
set_option autoImplicit false

/-!
# Tokens of YAML

The words of a YAML text, and the readers of those that stand on one line: directives, anchors,
aliases and tags.

## Main definitions

* `Remap.Yaml.Token` — a token. Indentation shows as tokens that open and close block collections.
* `Remap.Yaml.readDirective?`, `Remap.Yaml.readAnchorName?`, `Remap.Yaml.readTag?`.
-/

namespace Remap.Yaml

/-- A token. -/
inductive Token where
  | versionDirective (major minor : Nat)
  | tagDirective (handle : String) (start : Tag)
  | documentStart
  | documentEnd
  | blockSequenceStart
  | blockMappingStart
  | blockEnd
  | flowSequenceStart
  | flowSequenceEnd
  | flowMappingStart
  | flowMappingEnd
  | blockEntry
  | flowEntry
  | key
  | value
  | alias (name : String)
  | anchor (name : String)
  | tag (handle : String) (suffix : Tag)
  | scalar (plain : Bool) (text : String)
  deriving DecidableEq, Repr

/-! ## Anchors and aliases -/

/-- The name of an anchor or alias after its mark. -/
def readAnchorName? (s : Source) : Option (String × Source) :=
  let (name, s) := s.span isWordChar
  let ends (c : Char) : Bool :=
    c = '?' || c = ':' || c = ',' || c = ']' || c = '}' || c = '%' || c = '@' || c = '\x60'
  if name.isEmpty then none
  else if endsWord s.peek || s.isIn ends then some (String.ofList name, s)
  else none

/-! ## Tags -/

/-- The characters of a tag that need no escape. -/
def isTagChar (verbatim : Bool) (c : Char) : Bool :=
  isWordChar c || c = ';' || c = '/' || c = '?' || c = ':' || c = '@' || c = '&' || c = '=' ||
    c = '+' || c = '$' || c = '.' || c = '!' || c = '~' || c = '*' || c = '\x27' || c = '(' ||
    c = ')' || (verbatim && (c = ',' || c = '[' || c = ']'))

/-- A byte written as a percent sign and two hexadecimal digits at the start of the text. -/
def escapedByte? (s : List Char) : Option (Nat × List Char) :=
  match s with
  | '%' :: high :: low :: rest => (hexNumber? [high, low]).map fun byte => (byte, rest)
  | _ => none

/-- Escaped bytes, each of which continues a character. -/
def continuationBytes? (count : Nat) (s : List Char) : Option (List UInt8) :=
  match count with
  | 0 => some []
  | count + 1 => do
    let (byte, rest) ← escapedByte? s
    if byte / 0x40 = 2 then
      let bytes ← continuationBytes? count rest
      return UInt8.ofNat byte :: bytes
    else none

/-- How many bytes continue the character that starts with the given byte. -/
def continuationCount? (byte : Nat) : Option Nat :=
  if byte < 0x80 then some 0
  else if byte / 0x20 = 6 then some 1
  else if byte / 0x10 = 14 then some 2
  else if byte / 0x8 = 30 then some 3
  else none

/-- The bytes of a character whose bytes are escaped at the start of the text. Their number is that
which the first one announces; the character itself is not looked at. -/
def escapedBytes? (s : List Char) : Option (List UInt8) := do
  let (byte, rest) ← escapedByte? s
  let count ← continuationCount? byte
  let bytes ← continuationBytes? count rest
  return UInt8.ofNat byte :: bytes

/-- The bytes of the characters of a tag at the start of the text, escapes decoded, and the number
of characters that they take. -/
def tagBytes? (verbatim : Bool) (s : List Char) : Option (List UInt8 × Nat) :=
  match s with
  | [] => some ([], 0)
  | c :: rest =>
    if c = '%' then do
      let bytes ← escapedBytes? (c :: rest)
      let (further, taken) ← tagBytes? verbatim (rest.drop (3 * bytes.length - 1))
      return (bytes ++ further, 3 * bytes.length + taken)
    else if isTagChar verbatim c then do
      let (further, taken) ← tagBytes? verbatim rest
      return (c.toUInt8 :: further, 1 + taken)
    else some ([], 0)
termination_by s.length
decreasing_by
  · simp only [List.length_drop, List.length_cons]; omega
  · simp

/-- The bytes that the characters of a tag at a place spell. -/
def readTagBytes? (verbatim : Bool) (s : Source) : Option (List UInt8 × Source) :=
  (tagBytes? verbatim s.rest).map fun (bytes, taken) => (bytes, s.skip taken)

/-- The handle of a tag: an exclamation mark, and a name with another mark behind it if there is
one. -/
def readHandle? (s : Source) : Option (List Char × Source) :=
  if s.isAt '!' then
    let (name, s) := (s.skip 1).span isWordChar
    if s.isAt '!' then some ('!' :: name ++ ['!'], s.skip 1) else some ('!' :: name, s)
  else none

/-- A tag as handle and suffix. A verbatim tag and the lone exclamation mark have no handle. -/
def readTagParts? (s : Source) : Option (String × Tag × Source) :=
  if s.ahead 1 = some '<' then do
    let (bytes, s) ← readTagBytes? true (s.skip 2)
    if bytes.isEmpty || !s.isAt '>' then none else return ("", Tag.untilZero bytes, s.skip 1)
  else do
    let (handle, s) ← readHandle? s
    let (bytes, s) ← readTagBytes? false s
    if handle.length > 1 && handle.getLast? = some '!' then
      if bytes.isEmpty then none else return (String.ofList handle, Tag.untilZero bytes, s)
    else
      let suffix := Tag.untilZero ((handle.drop 1).map Char.toUInt8 ++ bytes)
      return if suffix.isEmpty then ("", Tag.mark, s) else ("!", suffix, s)

/-- A tag at a place. It ends at a blank or, inside brackets, before a comma. -/
def readTag? (inBrackets : Bool) (s : Source) : Option (Token × Source) := do
  let (handle, suffix, s) ← readTagParts? s
  if (inBrackets && s.isAt ',') || endsWord s.peek then return (.tag handle suffix, s) else none

/-! ## Directives -/

/-- A number of at most nine digits. -/
def readVersionNumber? (s : Source) : Option (Nat × Source) :=
  let (digits, s) := s.span Char.isDigit
  if digits.isEmpty || digits.length > 9 then none else some (Nat.ofDigitChars 10 digits 0, s)

/-- The value of a version directive. -/
def readVersion? (s : Source) : Option (Token × Source) := do
  let (major, s) ← readVersionNumber? (s.skipWhile isBlank)
  if s.isAt '.' then
    let (minor, s) ← readVersionNumber? (s.skip 1)
    return (.versionDirective major minor, s)
  else none

/-- The value of a tag directive: a complete handle and what it stands for. -/
def readTagDirective? (s : Source) : Option (Token × Source) := do
  let (handle, s) ← readHandle? (s.skipWhile isBlank)
  if handle ≠ ['!'] && handle.getLast? ≠ some '!' then none
  else if !s.isIn isBlank then none
  else
    let (bytes, s) ← readTagBytes? true (s.skipWhile isBlank)
    if bytes.isEmpty || !endsWord s.peek then none
    else return (.tagDirective (String.ofList handle) (Tag.untilZero bytes), s)

/-- The directive whose percent sign is at the place, with the rest of its line. -/
def readDirective? (s : Source) : Option (Token × Source) := do
  let (name, s) := (s.skip 1).span isWordChar
  if !endsWord s.peek then none
  else
    let (token, s) ←
      if name = ['Y', 'A', 'M', 'L'] then readVersion? s
      else if name = ['T', 'A', 'G'] then readTagDirective? s
      else none
    let s ← s.skipLineEnd?
    return (token, s)

end Remap.Yaml
