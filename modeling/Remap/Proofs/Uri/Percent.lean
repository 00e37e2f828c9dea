import Remap.Json.Reader
import Remap.Uri.Percent

set_option relaxedAutoImplicit false
set_option autoImplicit false

/-!
# Percent-encoded texts

A percent-encoded text is made of unreserved characters and of triplets, each of them a percent sign
with two hexadecimal digits. Decoding turns every triplet into the byte that its digits stand for,
and every other character into its bytes in UTF-8. Decoding what was encoded gives the bytes of the
text again, so no two texts are encoded alike.

## Main definitions

* `Remap.Uri.IsEncoded` — texts made of unreserved characters and triplets.
* `Remap.Uri.percentDecode` — the bytes that a text stands for.

## Main results

* `Remap.Uri.isEncoded_percentEncode` — encoding gives a percent-encoded text.
* `Remap.Uri.percentDecode_percentEncode` — decoding gives the bytes of the text that was encoded.
* `Remap.Uri.IsEncoded.isUnreserved_or_eq` — the characters of a percent-encoded text.
-/

namespace Remap.Uri

/-- A decimal digit or one of the letters from `A` to `F`. -/
def isUpperHexDigit (c : Char) : Bool :=
  c.isDigit || ('A' ≤ c && c ≤ 'F')

/-- The text is made of unreserved characters and triplets. -/
inductive IsEncoded : List Char → Prop
  | nil : IsEncoded []
  | unreserved {c : Char} {rest : List Char} (hc : isUnreserved c = true)
      (hrest : IsEncoded rest) : IsEncoded (c :: rest)
  | triplet {high low : Char} {rest : List Char} (hhigh : isUpperHexDigit high = true)
      (hlow : isUpperHexDigit low = true) (hrest : IsEncoded rest) :
      IsEncoded ('%' :: high :: low :: rest)

/-- The bytes that a text stands for. A percent sign without two hexadecimal digits behind it stands
for itself, as does every other character. -/
def percentDecode : List Char → List UInt8
  | [] => []
  | '%' :: high :: low :: rest =>
    match Json.hexValue? high, Json.hexValue? low with
    | some h, some l => UInt8.ofNat (h * 16 + l) :: percentDecode rest
    | _, _ => String.utf8EncodeChar '%' ++ percentDecode (high :: low :: rest)
  | c :: rest => String.utf8EncodeChar c ++ percentDecode rest

/-! ## Digits and bytes -/

/-- A hexadecimal digit stands for its number. -/
theorem hexValue?_hexDigit {n : Nat} (h : n < 16) : Json.hexValue? (hexDigit n) = some n := by
  have hall : ∀ m : Fin 16, Json.hexValue? (hexDigit m) = some m.val := by decide
  exact hall ⟨n, h⟩

/-- The letters among the digits are upper-case. -/
theorem isUpperHexDigit_hexDigit {n : Nat} (h : n < 16) : isUpperHexDigit (hexDigit n) = true := by
  have hall : ∀ m : Fin 16, isUpperHexDigit (hexDigit m) = true := by decide
  exact hall ⟨n, h⟩

/-- The two digits of a byte are digits. -/
theorem halves_lt (b : UInt8) : b.toNat / 16 < 16 ∧ b.toNat % 16 < 16 := by
  have hb : b.toNat < 256 := b.toNat_lt
  omega

/-- The percent sign is not unreserved. -/
theorem ne_of_isUnreserved {c : Char} (h : isUnreserved c = true) : c ≠ '%' := by
  rintro rfl
  exact absurd h (by decide)

/-- A hexadecimal digit is an unreserved character. -/
theorem isUnreserved_of_isUpperHexDigit {c : Char} (h : isUpperHexDigit c = true) :
    isUnreserved c = true := by
  rw [isUpperHexDigit, Bool.or_eq_true, Bool.and_eq_true, decide_eq_true_eq,
    decide_eq_true_eq] at h
  have halnum : (decide ('A' ≤ c ∧ c ≤ 'Z') || c.isLower || c.isDigit) = true := by
    rcases h with hdigit | ⟨hfirst, hlast⟩
    · rw [hdigit, Bool.or_true]
    · have hupper : 'A' ≤ c ∧ c ≤ 'Z' := ⟨hfirst, Char.le_trans hlast (by decide)⟩
      rw [decide_eq_true hupper, Bool.true_or, Bool.true_or]
  have hunreserved : c.isAlphanum = true := halnum
  simp [isUnreserved, hunreserved]

/-! ## Encoding -/

/-- Percent-encoded texts can be joined. -/
theorem IsEncoded.append {s t : List Char} (hs : IsEncoded s) (ht : IsEncoded t) :
    IsEncoded (s ++ t) := by
  induction hs with
  | nil => exact ht
  | unreserved hc _ ih => exact .unreserved hc ih
  | triplet hhigh hlow _ ih => exact .triplet hhigh hlow ih

/-- A byte is written as one triplet. -/
theorem isEncoded_encodeByte (b : UInt8) : IsEncoded (encodeByte b) := by
  obtain ⟨hhigh, hlow⟩ := halves_lt b
  exact .triplet (isUpperHexDigit_hexDigit hhigh) (isUpperHexDigit_hexDigit hlow) .nil

/-- Bytes are written as triplets. -/
theorem isEncoded_flatMap_encodeByte (bytes : List UInt8) :
    IsEncoded (bytes.flatMap encodeByte) := by
  induction bytes with
  | nil => exact .nil
  | cons b rest ih => exact (isEncoded_encodeByte b).append ih

/-- **Encoding gives a percent-encoded text.** -/
theorem isEncoded_percentEncode (s : List Char) : IsEncoded (percentEncode s) := by
  induction s with
  | nil => exact .nil
  | cons c rest ih =>
    have hchar : IsEncoded (encodeChar c) := by
      rw [encodeChar]
      by_cases hc : isUnreserved c = true
      · rw [if_pos hc]
        exact .unreserved hc .nil
      · rw [if_neg hc]
        exact isEncoded_flatMap_encodeByte _
    exact hchar.append ih

/-- **The characters of a percent-encoded text** are unreserved, or percent signs. -/
theorem IsEncoded.isUnreserved_or_eq {s : List Char} (h : IsEncoded s) {c : Char} (hc : c ∈ s) :
    isUnreserved c = true ∨ c = '%' := by
  induction h with
  | nil => simp at hc
  | unreserved hfirst _ ih =>
    rcases List.mem_cons.1 hc with rfl | hc
    · left; exact hfirst
    · exact ih hc
  | triplet hhigh hlow _ ih =>
    simp only [List.mem_cons] at hc
    rcases hc with rfl | rfl | rfl | hc
    · right; rfl
    · left; exact isUnreserved_of_isUpperHexDigit hhigh
    · left; exact isUnreserved_of_isUpperHexDigit hlow
    · exact ih hc

/-! ## Decoding -/

/-- A character other than the percent sign stands for itself. -/
theorem percentDecode_cons_of_ne {c : Char} (h : c ≠ '%') (rest : List Char) :
    percentDecode (c :: rest) = String.utf8EncodeChar c ++ percentDecode rest := by
  rw [percentDecode]
  rintro high low others rfl
  exact absurd rfl h

/-- A triplet stands for its byte. -/
theorem percentDecode_encodeByte_append (b : UInt8) (rest : List Char) :
    percentDecode (encodeByte b ++ rest) = b :: percentDecode rest := by
  obtain ⟨hhigh, hlow⟩ := halves_lt b
  have hb : UInt8.ofNat (b.toNat / 16 * 16 + b.toNat % 16) = b := by
    rw [Nat.div_add_mod', UInt8.ofNat_toNat]
  simp only [encodeByte, List.cons_append, List.nil_append, percentDecode,
    hexValue?_hexDigit hhigh, hexValue?_hexDigit hlow, hb]

/-- Triplets stand for their bytes. -/
theorem percentDecode_flatMap_encodeByte_append (bytes : List UInt8) (rest : List Char) :
    percentDecode (bytes.flatMap encodeByte ++ rest) = bytes ++ percentDecode rest := by
  induction bytes with
  | nil => rfl
  | cons b others ih =>
    rw [List.flatMap_cons, List.append_assoc, percentDecode_encodeByte_append, ih,
      List.cons_append]

/-- An encoded character stands for the bytes of the character. -/
theorem percentDecode_encodeChar_append (c : Char) (rest : List Char) :
    percentDecode (encodeChar c ++ rest) = String.utf8EncodeChar c ++ percentDecode rest := by
  rw [encodeChar]
  by_cases hc : isUnreserved c = true
  · rw [if_pos hc]
    exact percentDecode_cons_of_ne (ne_of_isUnreserved hc) rest
  · rw [if_neg hc]
    exact percentDecode_flatMap_encodeByte_append _ rest

/-- **Decoding gives the bytes of the text that was encoded.** -/
theorem percentDecode_percentEncode (s : List Char) :
    percentDecode (percentEncode s) = s.flatMap String.utf8EncodeChar := by
  induction s with
  | nil => rfl
  | cons c rest ih =>
    rw [percentEncode, List.flatMap_cons, List.flatMap_cons, percentDecode_encodeChar_append,
      ← percentEncode, ih]

end Remap.Uri
