set_option relaxedAutoImplicit false
set_option autoImplicit false

/-!
# Percent encoding

The unreserved characters of a URI stand for themselves; every other character is written as the
bytes of its UTF-8 form, each as a percent sign and two upper-case hexadecimal digits.

## Main definitions

* `Remap.Uri.isUnreserved` — the characters that stand for themselves.
* `Remap.Uri.percentEncode` — the encoded text.
-/

namespace Remap.Uri

/-- ASCII letters and digits, the hyphen, the underscore, the point and the tilde. -/
def isUnreserved (c : Char) : Bool :=
  c.isAlphanum || c = '-' || c = '_' || c = '.' || c = '~'

/-- The upper-case hexadecimal digit of a number below 16. -/
def hexDigit (n : Nat) : Char :=
  if n < 10 then Char.ofNat ('0'.toNat + n) else Char.ofNat ('A'.toNat + (n - 10))

/-- A byte as a percent sign and two digits. -/
def encodeByte (b : UInt8) : List Char :=
  ['%', hexDigit (b.toNat / 16), hexDigit (b.toNat % 16)]

/-- One character, encoded unless it is unreserved. -/
def encodeChar (c : Char) : List Char :=
  if isUnreserved c then [c] else (String.utf8EncodeChar c).flatMap encodeByte

/-- The text with every character encoded unless it is unreserved. -/
def percentEncode (s : List Char) : List Char :=
  s.flatMap encodeChar

end Remap.Uri
