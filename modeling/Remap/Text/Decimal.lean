set_option relaxedAutoImplicit false
set_option autoImplicit false

/-!
# Decimal indices

Positions in arrays are 64-bit words. A text names one by its decimal digits, leading zeros and a
plus sign before them allowed.

## Main definitions

* `Remap.Text.decimal` — the digits of a number without leading zeros.
* `Remap.Text.ofDigits?` — the index of a run of digits, if it fits 64 bits.
* `Remap.Text.index?` — the index that a whole text names.

## Main results

* `Remap.Text.ofDigits?_toDigits`, `Remap.Text.index?_decimal`, `Remap.Text.exists_index?_decimal` —
  the digits of an index name it.
* `Remap.Text.decimal_injective` — different numbers have different digits.
-/

namespace Remap.Text

/-- The decimal digits of a number. -/
def decimal (n : Nat) : String :=
  String.ofList (Nat.toDigits 10 n)

/-- The index with the given decimal digits; `none` from `2 ^ 64` on. -/
def ofDigits? (digits : List Char) : Option UInt64 :=
  let value := Nat.ofDigitChars 10 digits 0
  if value < UInt64.size then some (UInt64.ofNat value) else none

/-- The index named by a text of an optional plus sign and one or more digits. -/
def index? (s : String) : Option UInt64 :=
  let digits := match s.toList with
    | '+' :: rest => rest
    | all => all
  if digits ≠ [] ∧ digits.all Char.isDigit then ofDigits? digits else none

/-- Digits name the index of their value, if that fits 64 bits. -/
theorem ofDigits?_eq_some_iff {digits : List Char} {i : UInt64} :
    ofDigits? digits = some i ↔ Nat.ofDigitChars 10 digits 0 < UInt64.size ∧
      UInt64.ofNat (Nat.ofDigitChars 10 digits 0) = i := by
  by_cases hvalue : Nat.ofDigitChars 10 digits 0 < UInt64.size <;> simp [ofDigits?, hvalue]

/-- The digits of an index have its value. -/
theorem ofDigits?_toDigits (i : UInt64) : ofDigits? (Nat.toDigits 10 i.toNat) = some i := by
  have h : i.toNat < UInt64.size := i.toNat_lt_size
  simp only [ofDigits?, Nat.ofDigitChars_ten_toDigits, if_pos h, UInt64.ofNat_toNat]

/-- The digits of an index name it. -/
theorem index?_decimal (i : UInt64) : index? (decimal i.toNat) = some i := by
  have hdigit : ∀ c ∈ Nat.toDigits 10 i.toNat, c.isDigit := fun c hc =>
    Nat.isDigit_of_mem_toDigits (by decide) (by decide) hc
  have hne : Nat.toDigits 10 i.toNat ≠ [] := Nat.toDigits_ne_nil
  unfold index? decimal
  rw [String.toList_ofList]
  have hplus : (match Nat.toDigits 10 i.toNat with
      | '+' :: rest => rest
      | all => all) = Nat.toDigits 10 i.toNat := by
    cases hdigits : Nat.toDigits 10 i.toNat with
    | nil => rfl
    | cons first rest =>
      have hfirst : first ≠ '+' := by
        rintro rfl
        exact absurd (hdigit '+' (by simp [hdigits])) (by decide)
      simp [hfirst]
  simp only [hplus, ofDigits?_toDigits]
  simp only [ne_eq, hne, not_false_eq_true, List.all_eq_true, true_and]
  exact if_pos hdigit

/-- The digits of a number below `2 ^ 64` name it. -/
theorem exists_index?_decimal {n : Nat} (h : n < UInt64.size) :
    ∃ position, index? (decimal n) = some position ∧ position.toNat = n := by
  have hn : (UInt64.ofNat n).toNat = n := UInt64.toNat_ofNat_of_lt' h
  have hindex := index?_decimal (UInt64.ofNat n)
  rw [hn] at hindex
  exact ⟨UInt64.ofNat n, hindex, hn⟩

/-- Different numbers have different digits. -/
theorem decimal_injective {m n : Nat} (h : decimal m = decimal n) : m = n := by
  have hdigits : Nat.toDigits 10 m = Nat.toDigits 10 n := String.ofList_injective h
  rw [← Nat.ofDigitChars_ten_toDigits (n := m), hdigits, Nat.ofDigitChars_ten_toDigits]

/-- A number has at least one digit. -/
theorem decimal_ne_empty (n : Nat) : decimal n ≠ "" := by
  intro h
  have hdigits := congrArg String.toList h
  rw [decimal, String.toList_ofList] at hdigits
  exact Nat.toDigits_ne_nil hdigits

end Remap.Text
