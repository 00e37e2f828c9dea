import Remap.Text.Cursor

set_option relaxedAutoImplicit false
set_option autoImplicit false

/-!
# YAML text with positions

Indentation decides the structure of a YAML text, so a place in it knows its line and column besides
the characters that follow.

## Main definitions

* `Remap.Yaml.isAllowed` — the characters that a text may hold.
* `Remap.Yaml.isBreak`, `Remap.Yaml.isBlank`, `Remap.Yaml.isWordChar` — classes of characters.
* `Remap.Yaml.Source` — a place in a text.
* `Remap.Yaml.Source.readBreak` — a line break, normalised.

## Main results

* `Remap.Yaml.Source.length_rest_readBreak` — a line break takes at least one character.
-/

namespace Remap.Yaml

/-- Printable characters, tabs and line breaks; controls are refused. -/
def isAllowed (c : Char) : Bool :=
  let code := c.toNat
  code = 0x9 || code = 0xa || code = 0xd || (0x20 ≤ code && code ≤ 0x7e) || code = 0x85 ||
    (0xa0 ≤ code && code ≤ 0xfffd) || 0x10000 ≤ code

/-- Spaces and tabs. -/
def isBlank (c : Char) : Bool :=
  c = ' ' || c = '\t'

/-- Line feed, carriage return, next line, line separator and paragraph separator. -/
def isBreak (c : Char) : Bool :=
  c = '\n' || c = '\r' || c = '\u0085' || c = '\u2028' || c = '\u2029'

/-- Whether a character, if there is one, is a blank or a break, so that a word ends before it. -/
def endsWord : Option Char → Bool
  | none => true
  | some c => isBlank c || isBreak c

/-- ASCII letters and digits, the hyphen and the underscore. -/
def isWordChar (c : Char) : Bool :=
  c.isAlphanum || c = '-' || c = '_'

/-- A place in a text. -/
structure Source where
  /-- The characters from the place on. -/
  rest : List Char
  /-- The number of bytes of UTF-8 before the place. -/
  index : Nat
  /-- The number of line breaks before the place. -/
  line : Nat
  /-- The number of characters since the last line break. -/
  column : Nat

namespace Source

/-- The start of a text. -/
def start (s : List Char) : Source :=
  ⟨s, 0, 0, 0⟩

/-- The character at the place. -/
def peek (s : Source) : Option Char :=
  s.rest.head?

/-- The character some places ahead. -/
def ahead (s : Source) (distance : Nat) : Option Char :=
  s.rest[distance]?

/-- Whether the character at the place is the given one. -/
def isAt (s : Source) (c : Char) : Bool :=
  s.peek = some c

/-- Whether the character at the place is of the class. -/
def isIn (s : Source) (inClass : Char → Bool) : Bool :=
  s.peek.any inClass

/-- The place some characters further on the same line. -/
def skip (s : Source) (count : Nat) : Source :=
  ⟨s.rest.drop count, s.index + Text.utf8Length (s.rest.take count), s.line, s.column + count⟩

/-- The longest run of characters of a class without line breaks, and the place after it. -/
def span (s : Source) (inClass : Char → Bool) : List Char × Source :=
  let run := s.rest.takeWhile inClass
  (run, s.skip run.length)

/-- The place after a run of characters of a class without line breaks. -/
def skipWhile (s : Source) (inClass : Char → Bool) : Source :=
  (s.span inClass).2

/-- The place after a byte order mark that starts a line. The mark counts as a column. -/
def skipOrderMark (s : Source) : Source :=
  if s.column = 0 && s.isAt '\ufeff' then s.skip 1 else s

/-- The place after a comment, if one starts here; the line break is left. -/
def skipComment (s : Source) : Source :=
  if s.isAt '#' then s.skipWhile (!isBreak ·) else s

/-- The line break at the place and the place after it. Carriage returns and next lines count as
line feeds, a carriage return and a line feed as one. Elsewhere nothing is read. -/
def readBreak (s : Source) : List Char × Source :=
  match s.rest with
  | '\r' :: '\n' :: rest => (['\n'], ⟨rest, s.index + 2, s.line + 1, 0⟩)
  | c :: rest =>
    if c = '\n' || c = '\r' || c = '\u0085' then
      (['\n'], ⟨rest, s.index + c.utf8Size, s.line + 1, 0⟩)
    else if isBreak c then ([c], ⟨rest, s.index + c.utf8Size, s.line + 1, 0⟩)
    else ([], s)
  | [] => ([], s)

/-- The place after the line break. -/
def skipBreak (s : Source) : Source :=
  s.readBreak.2

/-- The place after blanks, a comment and the line break that must end the line; `none` where
something else follows. -/
def skipLineEnd? (s : Source) : Option Source :=
  let s := (s.skipWhile isBlank).skipComment
  if s.rest.isEmpty then some s
  else if s.isIn isBreak then some s.skipBreak
  else none

/-- Whether one of the two marks between documents starts at the place. -/
def isAtDocumentMark (s : Source) : Bool :=
  s.column = 0 &&
    (match s.rest with
      | '-' :: '-' :: '-' :: rest => endsWord rest.head?
      | '.' :: '.' :: '.' :: rest => endsWord rest.head?
      | _ => false)

/-- A line break takes at least one character. -/
theorem length_rest_readBreak (s : Source) (h : s.isIn isBreak = true) :
    s.readBreak.2.rest.length < s.rest.length := by
  simp only [isIn, peek] at h
  fun_cases readBreak s with
  | case1 rest hrest =>
    simp only [hrest, List.length_cons]
    omega
  | case2 c rest _ hrest => simp [hrest]
  | case3 c rest _ hrest => simp [hrest]
  | case4 c rest _ hrest _ hother => simp [hrest, hother] at h
  | case5 hrest => simp [hrest] at h

end Source

end Remap.Yaml
