import Remap.Json.Basic
import Remap.Binary64.Rounding

set_option relaxedAutoImplicit false
set_option autoImplicit false

/-!
# Reading JSON text

The reader takes strict JSON: no blanks but the four of the grammar, no text after the value, no
unpaired surrogate escapes and at most `Remap.Json.depthLimit` containers inside each other. Of
several members with one name the last value is kept, at the place of the first.

## Main definitions

* `Remap.Json.read?` — the value of a text.
* `Remap.Json.ofDigits` — what number a run of digits stands for.
-/

namespace Remap.Json

/-- How many containers may be inside each other. -/
def depthLimit : Nat :=
  127

/-- The blanks of the grammar. -/
def isGap (c : Char) : Bool :=
  c = ' ' || c = '\t' || c = '\n' || c = '\r'

/-- The text after leading blanks. -/
def skipGaps (s : List Char) : List Char :=
  s.dropWhile isGap

/-! ## Numbers -/

/-- The digits of a number with the exponent that belongs to them. -/
structure Digits where
  /-- The digits so far, below `2 ^ 64`. -/
  value : Nat
  /-- The power of ten that the digits count. -/
  exponent : Int

/-- Whether the digits still fit 64 bits with one more digit. -/
def Digits.accepts (d : Digits) (digit : Char) : Bool :=
  d.value * 10 + (digit.toNat - '0'.toNat) < UInt64.size

/-- Adds the digits before the point. From the first one on that would exceed 64 bits they only
raise the exponent. -/
def Digits.whole (d : Digits) : List Char → Digits
  | [] => d
  | digit :: rest =>
    if d.accepts digit then
      Digits.whole { d with value := d.value * 10 + (digit.toNat - '0'.toNat) } rest
    else { d with exponent := d.exponent + (rest.length + 1 : Nat) }

/-- Adds the digits after the point. From the first one on that would exceed 64 bits they are
dropped. -/
def Digits.fraction (d : Digits) : List Char → Digits
  | [] => d
  | digit :: rest =>
    if d.accepts digit then
      Digits.fraction ⟨d.value * 10 + (digit.toNat - '0'.toNat), d.exponent - 1⟩ rest
    else d

/-- The number of a run of digits, which is not empty, without fraction and exponent. It stays exact
if it fits 64 bits with its sign, where minus zero does not count as an integer; otherwise it
becomes a double. -/
def ofDigits (negative : Bool) (digits : List Char) : Option Number :=
  let d := Digits.whole ⟨0, 0⟩ digits
  if d.exponent = 0 ∧ !negative then some (.integer d.value)
  else if d.exponent = 0 ∧ 0 < d.value ∧ d.value ≤ Nat.pow 2 63 then some (.integer (-d.value))
  else (Binary64.ofScaled negative d.value d.exponent).map .double

/-- The digits at the start of a text and what follows; `none` if there are none. -/
def readDigits? (s : List Char) : Option (List Char × List Char) :=
  match s.takeWhile Char.isDigit with
  | [] => none
  | digits => some (digits, s.dropWhile Char.isDigit)

/-- A run of digits at the start of a text as a number. -/
def readNat? (s : List Char) : Option (Nat × List Char) :=
  (readDigits? s).map fun (digits, rest) => (Nat.ofDigitChars 10 digits 0, rest)

/-- A signed exponent after its `e`. -/
def readExponent? (s : List Char) : Option (Int × List Char) :=
  match s with
  | '-' :: rest => (readNat? rest).map fun (value, rest) => (-(value : Int), rest)
  | '+' :: rest => (readNat? rest).map fun (value, rest) => ((value : Int), rest)
  | rest => (readNat? rest).map fun (value, rest) => ((value : Int), rest)

/-- The double of the digits once an exponent, if there is one, has been read. -/
def readScaled? (negative : Bool) (d : Digits) (s : List Char) : Option (Number × List Char) :=
  match s with
  | 'e' :: rest | 'E' :: rest => do
    let (exponent, rest) ← readExponent? rest
    let value ← Binary64.ofScaled negative d.value (d.exponent + exponent)
    return (.double value, rest)
  | rest => do
    let value ← Binary64.ofScaled negative d.value d.exponent
    return (.double value, rest)

/-- A number after its sign. -/
def readUnsigned? (negative : Bool) (s : List Char) : Option (Number × List Char) := do
  let (digits, rest) ← readDigits? s
  if digits.length > 1 && digits.head? = some '0' then none
  else
    match rest with
    | '.' :: rest =>
      let (fraction, rest) ← readDigits? rest
      readScaled? negative ((Digits.whole ⟨0, 0⟩ digits).fraction fraction) rest
    | 'e' :: _ | 'E' :: _ => readScaled? negative (Digits.whole ⟨0, 0⟩ digits) rest
    | _ => return (← ofDigits negative digits, rest)

/-- A number at the start of a text. -/
def readNumber? (s : List Char) : Option (Number × List Char) :=
  match s with
  | '-' :: rest => readUnsigned? true rest
  | rest => readUnsigned? false rest

/-! ## Strings -/

/-- The value of a hexadecimal digit. -/
def hexValue? (c : Char) : Option Nat :=
  if c.isDigit then some (c.toNat - '0'.toNat)
  else if 'a' ≤ c ∧ c ≤ 'f' then some (c.toNat - 'a'.toNat + 10)
  else if 'A' ≤ c ∧ c ≤ 'F' then some (c.toNat - 'A'.toNat + 10)
  else none

/-- The value of four hexadecimal digits. -/
def hex4? (a b c d : Char) : Option Nat := do
  return (((← hexValue? a) * 16 + (← hexValue? b)) * 16 + (← hexValue? c)) * 16 + (← hexValue? d)

/-- The character of a backslash escape of one letter. -/
def simpleEscape? (c : Char) : Option Char :=
  if c = '\"' ∨ c = '\\' ∨ c = '/' then some c
  else if c = 'b' then some '\x08'
  else if c = 'f' then some '\x0c'
  else if c = 'n' then some '\n'
  else if c = 'r' then some '\r'
  else if c = 't' then some '\t'
  else none

/-- The character of a pair of surrogates. -/
def surrogatePair? (high low : Nat) : Option Char :=
  if 0xD800 ≤ high ∧ high < 0xDC00 ∧ 0xDC00 ≤ low ∧ low < 0xE000 then
    some (Char.ofNat (0x10000 + (high - 0xD800) * 0x400 + (low - 0xDC00)))
  else none

/-- The characters of a string after its opening quote, and what follows its closing quote. -/
def readStringBody? : List Char → Option (List Char × List Char)
  | [] => none
  | '\"' :: rest => some ([], rest)
  | '\\' :: 'u' :: a :: b :: c :: d :: rest => do
    let unit ← hex4? a b c d
    if unit < 0xD800 ∨ 0xE000 ≤ unit then
      let (text, rest) ← readStringBody? rest
      return (Char.ofNat unit :: text, rest)
    else
      match rest with
      | '\\' :: 'u' :: e :: f :: g :: h :: rest =>
        let character ← surrogatePair? unit (← hex4? e f g h)
        let (text, rest) ← readStringBody? rest
        return (character :: text, rest)
      | _ => none
  | '\\' :: c :: rest => do
    let character ← simpleEscape? c
    let (text, rest) ← readStringBody? rest
    return (character :: text, rest)
  | c :: rest => do
    if c.toNat < 0x20 then none
    else
      let (text, rest) ← readStringBody? rest
      return (c :: text, rest)

/-- A string at the start of a text. -/
def readString? (s : List Char) : Option (String × List Char) :=
  match s with
  | '\"' :: rest => (readStringBody? rest).map fun (text, rest) => (String.ofList text, rest)
  | _ => none

/-! ## Containers -/

/-- One or more elements, separated by commas, up to the closing bracket. An element never starts
with a blank, and one that takes no character is refused. -/
def readElements? {α : Type} (readOne? : List Char → Option (α × List Char)) (closing : Char)
    (s : List Char) : Option (List α × List Char) :=
  match readOne? (skipGaps s) with
  | none => none
  | some (first, rest) =>
    match _h : skipGaps rest with
    | [] => none
    | c :: rest' =>
      if c = closing then some ([first], rest')
      else if c = ',' then
        if rest'.length < s.length then
          (readElements? readOne? closing rest').map fun (others, rest) => (first :: others, rest)
        else none
      else none
termination_by s.length

/-- The elements of a container after its opening bracket; there may be none. -/
def readContainer? {α : Type} (readOne? : List Char → Option (α × List Char)) (closing : Char)
    (s : List Char) : Option (List α × List Char) :=
  match skipGaps s with
  | [] => none
  | c :: rest => if c = closing then some ([], rest) else readElements? readOne? closing (c :: rest)

/-- A member of an object: a string, a colon and a value. -/
def readMember? (readInner? : List Char → Option (Json × List Char)) (s : List Char) :
    Option ((String × Json) × List Char) := do
  let (name, rest) ← readString? s
  match skipGaps rest with
  | ':' :: rest =>
    let (value, rest) ← readInner? (skipGaps rest)
    return ((name, value), rest)
  | _ => none

/-- A value at the start of a text, with at most `depth` containers inside each other. -/
def readValue? (depth : Nat) (s : List Char) : Option (Json × List Char) :=
  match s with
  | 'n' :: 'u' :: 'l' :: 'l' :: rest => some (.null, rest)
  | 't' :: 'r' :: 'u' :: 'e' :: rest => some (.bool true, rest)
  | 'f' :: 'a' :: 'l' :: 's' :: 'e' :: rest => some (.bool false, rest)
  | '\"' :: _ => (readString? s).map fun (text, rest) => (.string text, rest)
  | '[' :: rest =>
    match depth with
    | 0 => none
    | depth + 1 =>
      (readContainer? (readValue? depth) ']' rest).map fun (items, rest) => (.array items, rest)
  | '{' :: rest =>
    match depth with
    | 0 => none
    | depth + 1 =>
      (readContainer? (readMember? (readValue? depth)) '}' rest).map fun (members, rest) =>
        (ofMembers members, rest)
  | _ => (readNumber? s).map fun (value, rest) => (.number value, rest)

/-- The value of a text; `none` if it is not JSON. -/
def read? (text : String) : Option Json :=
  match readValue? depthLimit (skipGaps text.toList) with
  | some (value, rest) => if (skipGaps rest).isEmpty then some value else none
  | none => none

end Remap.Json
