import Remap.Yaml.Source

set_option relaxedAutoImplicit false
set_option autoImplicit false

/-!
# Quoted and plain scalars of YAML

Scalars inside a line or over several lines. Line breaks inside them are folded: the first one
becomes a space, or disappears where further ones follow, and blanks around breaks are dropped.

## Main definitions

* `Remap.Yaml.Gap` — the blanks and breaks between two words of a scalar.
* `Remap.Yaml.readQuoted?` — a scalar in single or double quotes.
* `Remap.Yaml.readPlain?` — a scalar without quotes.
-/

namespace Remap.Yaml

/-- The blanks and breaks between two words of a scalar. -/
structure Gap where
  /-- The blanks, if there is no break. -/
  blanks : List Char
  /-- Whether there is a break. -/
  broken : Bool
  /-- The first break; a break escaped by a backslash leaves nothing. -/
  first : List Char
  /-- The further breaks. -/
  further : List Char

namespace Gap

/-- No gap at all. -/
def none : Gap :=
  ⟨[], false, [], []⟩

/-- A break escaped by a backslash. -/
def escapedBreak : Gap :=
  ⟨[], true, [], []⟩

/-- What a gap leaves in the scalar. -/
def text (g : Gap) : List Char :=
  if g.broken then
    if g.first = ['\n'] then (if g.further.isEmpty then [' '] else g.further)
    else g.first ++ g.further
  else g.blanks

/-- The gap with one more blank. -/
def addBlank (g : Gap) (c : Char) : Gap :=
  if g.broken then g else { g with blanks := g.blanks ++ [c] }

/-- The gap with one more break. -/
def addBreak (g : Gap) (lineBreak : List Char) : Gap :=
  if g.broken then { g with further := g.further ++ lineBreak }
  else ⟨[], true, lineBreak, []⟩

/-- Reads all blanks and breaks at a place. On a line after the first, a tab before the given column
is refused. -/
def read? (leastColumn : Int) (g : Gap) (s : Source) : Option (Gap × Source) :=
  match _hrest : s.rest with
  | [] => some (g, s)
  | c :: _ =>
    if isBlank c then
      if g.broken && c = '\t' && s.column < leastColumn then Option.none
      else read? leastColumn (g.addBlank c) (s.skip 1)
    else if _hbreak : s.isIn isBreak then
      read? leastColumn (g.addBreak s.readBreak.1) s.readBreak.2
    else some (g, s)
termination_by s.rest.length
decreasing_by
  · simp [Source.skip, _hrest]
  · exact s.length_rest_readBreak _hbreak

end Gap

/-! ## Quoted scalars -/

/-- The value of a hexadecimal digit. -/
def hexValue? (c : Char) : Option Nat :=
  if c.isDigit then some (c.toNat - '0'.toNat)
  else if 'a' ≤ c ∧ c ≤ 'f' then some (c.toNat - 'a'.toNat + 10)
  else if 'A' ≤ c ∧ c ≤ 'F' then some (c.toNat - 'A'.toNat + 10)
  else none

/-- The number of hexadecimal digits; `none` if one of the characters is no such digit. -/
def hexNumber? (digits : List Char) : Option Nat :=
  digits.foldlM (fun n c => (hexValue? c).map (n * 16 + ·)) 0

/-- The character of a backslash escape of one letter. -/
def escape? (c : Char) : Option Char :=
  match c with
  | '0' => some '\x00'
  | 'a' => some '\x07'
  | 'b' => some '\x08'
  | 't' | '\t' => some '\t'
  | 'n' => some '\n'
  | 'v' => some '\x0b'
  | 'f' => some '\x0c'
  | 'r' => some '\r'
  | 'e' => some '\x1b'
  | ' ' => some ' '
  | '\"' => some '\"'
  | '/' => some '/'
  | '\\' => some '\\'
  | 'N' => some '\u0085'
  | '_' => some '\u00a0'
  | 'L' => some '\u2028'
  | 'P' => some '\u2029'
  | _ => none

/-- How many hexadecimal digits follow the letter of a backslash escape. -/
def escapeDigits (c : Char) : Nat :=
  if c = 'x' then 2 else if c = 'u' then 4 else if c = 'U' then 8 else 0

/-- The character of a backslash escape after the backslash, and how many characters it takes. -/
def readEscape? (s : List Char) : Option (Char × Nat) :=
  match s with
  | [] => none
  | c :: rest =>
    let count := escapeDigits c
    if count = 0 then (escape? c).map fun character => (character, 1)
    else if rest.length < count then none
    else do
      let code ← hexNumber? (rest.take count)
      if (0xD800 ≤ code ∧ code < 0xE000) ∨ 0x10FFFF < code then none
      else some (Char.ofNat code, count + 1)

/-- The word of a scalar in single quotes at the start of the text, with the number of characters
that it takes. A word ends before a blank, a break and the closing quote; a doubled quote is a
quote. -/
def singleQuotedWord : List Char → List Char × Nat
  | '\x27' :: '\x27' :: rest =>
    let (word, taken) := singleQuotedWord rest
    ('\x27' :: word, taken + 2)
  | c :: rest =>
    if c = '\x27' || isBlank c || isBreak c then ([], 0)
    else
      let (word, taken) := singleQuotedWord rest
      (c :: word, taken + 1)
  | [] => ([], 0)

/-- The word of a scalar in double quotes at the start of the text: its characters, the number of
characters that it takes, and whether the last of them is a backslash before a line break. -/
def doubleQuotedWord? (s : List Char) : Option (List Char × Nat × Bool) :=
  match s with
  | [] => some ([], 0, false)
  | c :: rest =>
    if c = '\\' then
      if rest.head?.any isBreak then some ([], 1, true)
      else do
        let (character, taken) ← readEscape? rest
        let (word, further, escapedBreak) ← doubleQuotedWord? (rest.drop taken)
        return (character :: word, 1 + taken + further, escapedBreak)
    else if c = '\"' || isBlank c || isBreak c then some ([], 0, false)
    else do
      let (word, further, escapedBreak) ← doubleQuotedWord? rest
      return (c :: word, 1 + further, escapedBreak)
termination_by s.length
decreasing_by
  · simp only [List.length_drop, List.length_cons]; omega
  · simp

/-- The word of a quoted scalar at a place, the place after it, and whether an escaped line break
ended it, which is passed over. -/
def quotedWord? (quote : Char) (s : Source) : Option (List Char × Source × Bool) :=
  if quote = '\x27' then
    let (word, taken) := singleQuotedWord s.rest
    some (word, s.skip taken, false)
  else
    (doubleQuotedWord? s.rest).map fun (word, taken, escapedBreak) =>
      let after := s.skip taken
      (word, if escapedBreak then after.skipBreak else after, escapedBreak)

/-- The text of a quoted scalar after its opening quote. A mark between documents may not stand
inside it. -/
def quotedText? (quote : Char) (fuel : Nat) (s : Source) : Option (List Char × Source) :=
  match fuel with
  | 0 => none
  | fuel + 1 =>
    if s.isAtDocumentMark || s.rest.isEmpty then none
    else do
      let (word, s, escapedBreak) ← quotedWord? quote s
      if s.isAt quote then return (word, s.skip 1)
      else
        let (gap, s) ← Gap.read? 0 (if escapedBreak then Gap.escapedBreak else Gap.none) s
        let (text, s) ← quotedText? quote fuel s
        return (word ++ gap.text ++ text, s)

/-- The scalar in quotes whose opening quote is at the place. The fuel is at least the number of
characters left. -/
def readQuoted? (quote : Char) (fuel : Nat) (s : Source) : Option (String × Source) :=
  (quotedText? quote fuel (s.skip 1)).map fun (text, s) => (String.ofList text, s)

/-! ## Plain scalars -/

/-- The characters that end a plain scalar inside brackets. -/
def isFlowMark (c : Char) : Bool :=
  c = ',' || c = '[' || c = ']' || c = '{' || c = '}'

/-- The word of a plain scalar at the start of the text. It ends before a blank, a break, a colon at
the end of a word and, inside brackets, before a bracket or a comma. Inside brackets a colon may not
stand directly before a bracket, a comma or a question mark. -/
def plainWord? (inBrackets : Bool) : List Char → Option (List Char)
  | [] => some []
  | c :: rest =>
    if isBlank c || isBreak c then some []
    else if inBrackets && c = ':' && rest.head?.any (fun d => isFlowMark d || d = '?') then none
    else if (c = ':' && endsWord rest.head?) || (inBrackets && isFlowMark c) then some []
    else (plainWord? inBrackets rest).map (c :: ·)

/-- The text of a plain scalar from a place on, the gap before the place included if a word follows;
the place after the scalar and the gap behind it; and whether that gap has a break. Further lines
must be indented to the given column, except inside brackets. -/
def plainText? (inBrackets : Bool) (leastColumn : Int) (fuel : Nat) (gap : Gap) (s : Source) :
    Option (List Char × Source × Bool) :=
  match fuel with
  | 0 => none
  | fuel + 1 =>
    if s.isAtDocumentMark || s.isAt '#' then some ([], s, gap.broken)
    else do
      let word ← plainWord? inBrackets s.rest
      let s := s.skip word.length
      let text := if word.isEmpty then [] else gap.text ++ word
      let gap := if word.isEmpty then gap else Gap.none
      if s.isIn fun c => isBlank c || isBreak c then
        let (gap, s) ← Gap.read? leastColumn gap s
        if !inBrackets && s.column < leastColumn then return (text, s, gap.broken)
        else
          let (further, s, broken) ← plainText? inBrackets leastColumn fuel gap s
          return (text ++ further, s, broken)
      else return (text, s, gap.broken)

/-- The plain scalar at a place, the place after it, and whether a line break follows it. The fuel
is greater than the number of characters left. -/
def readPlain? (inBrackets : Bool) (leastColumn : Int) (fuel : Nat) (s : Source) :
    Option (String × Source × Bool) :=
  (plainText? inBrackets leastColumn fuel Gap.none s).map
    fun (text, s, broken) => (String.ofList text, s, broken)

end Remap.Yaml
