import Remap.Binary64.Rounding
import Remap.Json.Basic
import Remap.Yaml.Node

set_option relaxedAutoImplicit false
set_option autoImplicit false

/-!
# What YAML scalars stand for

A plain scalar is null, a boolean, a number or else a string by its spelling. A scalar with the tag
of one of those kinds must have a spelling of the kind. All other scalars are strings.

## Main definitions

* `Remap.Yaml.integer?`, `Remap.Yaml.double?` — the numbers among the spellings.
* `Remap.Yaml.ofScalar?` — the JSON value of a scalar.
-/

namespace Remap.Yaml

/-- Whether the text is a spelling of null. -/
def isNull (text : String) : Bool :=
  text = "null" || text = "Null" || text = "NULL" || text = "~"

/-- The boolean that the text spells. -/
def boolean? (text : String) : Option Bool :=
  if text = "true" || text = "True" || text = "TRUE" then some true
  else if text = "false" || text = "False" || text = "FALSE" then some false
  else none

/-! ## Integers -/

/-- The digits of a number in a radix up to 16, of which there must be some. -/
def digitsIn? (radix : Nat) (s : List Char) : Option Nat :=
  if s.isEmpty then none
  else s.foldlM (fun n c => (hexValue? c).bind fun digit =>
    if digit < radix then some (n * radix + digit) else none) 0

/-- Whether the text is a zero and further digits behind an optional sign. It is a string then, and
no number. -/
def hasLeadingZero (s : List Char) : Bool :=
  let digits := match s with
    | '+' :: rest | '-' :: rest => rest
    | all => all
  digits.length > 1 && digits.head? = some '0' && digits.all Char.isDigit

/-- The digits of a number after its sign, with the radix that their start names. -/
def magnitude? (s : List Char) : Option Nat :=
  match s with
  | '0' :: 'x' :: rest => digitsIn? 16 rest
  | '0' :: 'o' :: rest => digitsIn? 8 rest
  | '0' :: 'b' :: rest => digitsIn? 2 rest
  | _ => digitsIn? 10 s

/-- The integer that the text spells. -/
def integer? (s : List Char) : Option Int :=
  if hasLeadingZero s then none
  else
    match s with
    | '-' :: rest => (magnitude? rest).map fun n => -(n : Int)
    | '+' :: rest => (magnitude? rest).map Int.ofNat
    | _ => (magnitude? s).map Int.ofNat

/-- Whether an integer has a place among JSON numbers. -/
def fitsJson (n : Int) : Bool :=
  -(Nat.pow 2 63 : Int) ≤ n && n < (Nat.pow 2 64 : Int)

/-- Whether an integer fits 128 bits with or without sign. -/
def fitsWide (n : Int) : Bool :=
  -(Nat.pow 2 127 : Int) ≤ n && n < (Nat.pow 2 128 : Int)

/-! ## Doubles -/

/-- The exponent of a decimal with its mark, 0 if there is none; nothing may follow. -/
def exponentPart? (s : List Char) : Option Int :=
  match s with
  | [] => some 0
  | 'e' :: rest | 'E' :: rest =>
    match rest with
    | '-' :: digits => (digitsIn? 10 digits).map fun n => -(n : Int)
    | '+' :: digits => (digitsIn? 10 digits).map Int.ofNat
    | digits => (digitsIn? 10 digits).map Int.ofNat
  | _ => none

/-- The double nearest to a decimal: digits with or without a point, at least one of them, and an
exponent. -/
def decimal? (negative : Bool) (s : List Char) : Option Binary64 := do
  let whole := s.takeWhile Char.isDigit
  let (fraction, rest) := match s.dropWhile Char.isDigit with
    | '.' :: rest => (rest.takeWhile Char.isDigit, rest.dropWhile Char.isDigit)
    | rest => ([], rest)
  let digits ← digitsIn? 10 (whole ++ fraction)
  let exponent ← exponentPart? rest
  Binary64.ofDecimal negative digits (exponent - fraction.length)

/-- The double that the text spells, the infinities and the undefined value as null, which is what
JSON has in their place. -/
def double? (s : List Char) : Option Json :=
  let special := ["inf", "Inf", "INF"].map fun name => '.' :: name.toList
  let undefined := ["nan", "NaN", "NAN"].map fun name => '.' :: name.toList
  match s with
  | '+' :: rest =>
    if special.contains rest then some .null
    else if rest.head? = some '+' || rest.head? = some '-' then none
    else (decimal? false rest).map fun x => .number (.double x)
  | '-' :: rest =>
    if special.contains rest then some .null
    else (decimal? true rest).map fun x => .number (.double x)
  | _ =>
    if special.contains s || undefined.contains s then some .null
    else (decimal? false s).map fun x => .number (.double x)

/-! ## Scalars -/

/-- The value of a text that spells an integer: `some none` if there is no JSON number for it, and
`none` if the text spells no integer or one of more than 128 bits. -/
def integerValue? (s : List Char) : Option (Option Json) :=
  match integer? s with
  | some n =>
    if fitsJson n then some (some (.number (.integer n)))
    else if fitsWide n then some none
    else none
  | none => none

/-- The value of a plain scalar without a tag. -/
def ofPlain? (text : String) : Option Json :=
  let s := text.toList
  if text = "" || isNull text then some .null
  else
    match boolean? text with
    | some value => some (.bool value)
    | none =>
      match integerValue? s with
      | some value => value
      | none =>
        if hasLeadingZero s then some (.string text)
        else some ((double? s).getD (.string text))

/-- Whether the tag names a type of an application, which no JSON value has. -/
def namesType (tag : Option Tag) : Bool :=
  tag.any Tag.namesType

/-- The value of a scalar; `none` if its tag does not fit its spelling or no value has it. A local
tag that names no type says nothing. -/
def ofScalar? (tag : Option Tag) (plain : Bool) (text : String) : Option Json :=
  match tag with
  | none => if plain then ofPlain? text else some (.string text)
  | some tag =>
    if tag.namesType then none
    else if tag = Tag.core "bool" then (boolean? text).map Json.bool
    else if tag = Tag.core "int" then (integerValue? text.toList).join
    else if tag = Tag.core "float" then double? text.toList
    else if tag = Tag.core "null" then (if isNull text then some .null else none)
    else if tag.isLocal && plain then ofPlain? text
    else some (.string text)

end Remap.Yaml
