import Remap.Json.Basic
import Remap.Binary64.Shortest

set_option relaxedAutoImplicit false
set_option autoImplicit false

/-!
# JSON text of a value

A value is written either compactly, without any blank, or laid out over lines with an indentation
of two spaces. Only quotes, backslashes and control characters are escaped.

## Main definitions

* `Remap.Json.compact` — the compact text.
* `Remap.Json.pretty` — the text laid out over lines.
-/

namespace Remap.Json

/-- Doubles from `1e-5` up to but not including `1e16` are written positionally, and always with a
fraction; all others in scientific notation with a sign before the exponent. -/
def numberLayout : Binary64.Layout :=
  ⟨-5, 15⟩

/-- The text of a number. -/
def Number.text : Number → String
  | .integer value => toString value
  | .double value => numberLayout.write value

/-- A character below U+0020 by its code in four hexadecimal digits. -/
def controlEscape (c : Char) : String :=
  let digits := Nat.toDigits 16 c.toNat
  "\\u" ++ String.ofList (List.replicate (4 - digits.length) '0' ++ digits)

/-- One character of a string: quotes, backslashes and controls are escaped. -/
def escapedChar (c : Char) : String :=
  if c = '\"' then "\\\""
  else if c = '\\' then "\\\\"
  else if c = '\x08' then "\\b"
  else if c = '\x0c' then "\\f"
  else if c = '\n' then "\\n"
  else if c = '\r' then "\\r"
  else if c = '\t' then "\\t"
  else if c.toNat < 0x20 then controlEscape c
  else c.toString

/-- The text of a string with its quotes. -/
def quotedString (s : String) : String :=
  "\"" ++ String.join (s.toList.map escapedChar) ++ "\""

/-- Texts between brackets, separated by commas. -/
def bracketed (opening closing : String) (texts : List String) : String :=
  opening ++ ",".intercalate texts ++ closing

mutual

/-- The text of a value without any blank. -/
def compact : Json → String
  | .null => "null"
  | .bool value => if value then "true" else "false"
  | .number value => value.text
  | .string value => quotedString value
  | .array items => bracketed "[" "]" (compactItems items)
  | .object members => bracketed "\x7b" "\x7d" (compactMembers members)

/-- The texts of the items of an array. -/
def compactItems : List Json → List String
  | [] => []
  | item :: rest => item.compact :: compactItems rest

/-- The texts of the members of an object. -/
def compactMembers : List (String × Json) → List String
  | [] => []
  | (name, value) :: rest => (quotedString name ++ ":" ++ value.compact) :: compactMembers rest

end

/-- The start of a line at the given depth. -/
def newLine (depth : Nat) : String :=
  "\n" ++ String.ofList (List.replicate (2 * depth) ' ')

/-- Texts between brackets, each on a line of its own one level deeper; nothing is between the
brackets if there are none. -/
def bracketedLines (opening closing : String) (depth : Nat) (texts : List String) : String :=
  if texts.isEmpty then opening ++ closing
  else
    opening ++ newLine (depth + 1) ++ ("," ++ newLine (depth + 1)).intercalate texts ++
      newLine depth ++ closing

mutual

/-- The text of a value at the given depth, laid out over lines. -/
def prettyAt (depth : Nat) : Json → String
  | .null => "null"
  | .bool value => if value then "true" else "false"
  | .number value => value.text
  | .string value => quotedString value
  | .array items => bracketedLines "[" "]" depth (prettyItems (depth + 1) items)
  | .object members => bracketedLines "\x7b" "\x7d" depth (prettyMembers (depth + 1) members)

/-- The texts of the items of an array. -/
def prettyItems (depth : Nat) : List Json → List String
  | [] => []
  | item :: rest => item.prettyAt depth :: prettyItems depth rest

/-- The texts of the members of an object. -/
def prettyMembers (depth : Nat) : List (String × Json) → List String
  | [] => []
  | (name, value) :: rest =>
    (quotedString name ++ ": " ++ value.prettyAt depth) :: prettyMembers depth rest

end

/-- The text of a value laid out over lines. -/
def pretty (value : Json) : String :=
  value.prettyAt 0

end Remap.Json
