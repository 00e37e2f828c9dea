import Remap.Yaml.Source

set_option relaxedAutoImplicit false
set_option autoImplicit false

/-!
# Block scalars of YAML

A block scalar is the text of the indented lines below its mark. In a literal scalar line breaks are
kept, in a folded one single breaks between lines that do not start with a blank become spaces. The
mark says what happens to the breaks at the end and may give the indentation.

## Main definitions

* `Remap.Yaml.Chomping` — what happens to the breaks at the end.
* `Remap.Yaml.readBlock?` — a block scalar.
-/

namespace Remap.Yaml

/-- What happens to the breaks at the end of a block scalar. -/
inductive Chomping where
  /-- They are dropped. -/
  | strip
  /-- The first one is kept. -/
  | clip
  /-- They are all kept. -/
  | keep
  deriving DecidableEq

/-- The chomping mark at a place. -/
def readChomping (s : Source) : Option Chomping × Source :=
  if s.isAt '+' then (some .keep, s.skip 1)
  else if s.isAt '-' then (some .strip, s.skip 1)
  else (none, s)

/-- The indentation mark at a place, a digit other than zero; 0 if there is none. -/
def readIncrement? (s : Source) : Option (Nat × Source) :=
  match s.peek with
  | some c =>
    if c.isDigit then if c = '0' then none else some (c.toNat - '0'.toNat, s.skip 1)
    else some (0, s)
  | none => some (0, s)

/-- The marks after the bar or the angle bracket, in either order. -/
def readBlockMarks? (s : Source) : Option (Chomping × Nat × Source) := do
  match readChomping s with
  | (some chomping, s) =>
    let (increment, s) ← readIncrement? s
    return (chomping, increment, s)
  | (none, s) =>
    let (increment, s) ← readIncrement? s
    if increment = 0 then return (.clip, 0, s)
    else
      let (chomping, s) := readChomping s
      return (chomping.getD .clip, increment, s)

/-- The place after the spaces of the indentation; 0 stands for an indentation not yet known. -/
def skipIndentation (indentation : Nat) (s : Source) : Source :=
  let spaces := (s.rest.takeWhile (· = ' ')).length
  s.skip (if indentation = 0 then spaces else min spaces (indentation - s.column))

/-- Reads empty lines and the indentation of the line after them: the breaks, the widest
indentation met, and the place. A tab in the indentation is refused. -/
def emptyLines? (indentation widest : Nat) (fuel : Nat) (s : Source) :
    Option (List Char × Nat × Source) :=
  match fuel with
  | 0 => none
  | fuel + 1 =>
    let s := skipIndentation indentation s
    let widest := max widest s.column
    if (indentation = 0 || s.column < indentation) && s.isAt '\t' then none
    else if s.isIn isBreak then
      (emptyLines? indentation widest fuel s.skipBreak).map fun (breaks, widest, after) =>
        (s.readBreak.1 ++ breaks, widest, after)
    else some ([], widest, s)

/-- What stands before a line of a block scalar. -/
structure BlockGap where
  /-- The break that ended the line before. -/
  lineBreak : List Char
  /-- The breaks of the empty lines between. -/
  empties : List Char
  /-- Whether the line before started with a blank. -/
  afterBlank : Bool

/-- The breaks before a line as they appear in the scalar. In a folded scalar a single break between
two lines that start with no blank is a space, and the first of several is dropped. -/
def BlockGap.text (g : BlockGap) (folded startsBlank : Bool) : List Char :=
  if folded && g.lineBreak = ['\n'] && !g.afterBlank && !startsBlank then
    if g.empties.isEmpty then [' '] else g.empties
  else g.lineBreak ++ g.empties

/-- The lines of a block scalar from a place on. -/
def blockLines? (folded : Bool) (chomping : Chomping) (indentation : Nat) (fuel : Nat)
    (gap : BlockGap) (s : Source) : Option (List Char × Source) :=
  match fuel with
  | 0 => none
  | fuel + 1 =>
    if s.column = indentation && !s.rest.isEmpty then do
      let startsBlank := s.isIn isBlank
      let (line, s) := s.span (!isBreak ·)
      let (lineBreak, s) := s.readBreak
      let (empties, _, s) ← emptyLines? indentation 0 fuel s
      let (text, s) ← blockLines? folded chomping indentation fuel
        ⟨lineBreak, empties, startsBlank⟩ s
      return (gap.text folded startsBlank ++ line ++ text, s)
    else
      some ((if chomping = .strip then [] else gap.lineBreak) ++
        (if chomping = .keep then gap.empties else []), s)

/-- The block scalar whose mark is at the place, inside a collection of the given indentation, which
is -1 outside of all collections. The fuel is greater than the number of characters left. -/
def readBlock? (folded : Bool) (parent : Int) (fuel : Nat) (s : Source) :
    Option (String × Source) := do
  let (chomping, increment, s) ← readBlockMarks? (s.skip 1)
  let s ← s.skipLineEnd?
  let given := if increment = 0 then 0 else (max parent 0).toNat + increment
  let (empties, widest, s) ← emptyLines? given 0 fuel s
  let indentation := if given = 0 then max (max widest (parent + 1).toNat) 1 else given
  let (text, s) ← blockLines? folded chomping indentation fuel
    ⟨[], empties, false⟩ s
  return (String.ofList text, s)

end Remap.Yaml
