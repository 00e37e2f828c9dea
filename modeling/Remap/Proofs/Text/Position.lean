import Remap.Text.Cursor
import Remap.Text.Decimal

set_option relaxedAutoImplicit false
set_option autoImplicit false

/-!
# Positions and bytes

The offset of a cursor counts the bytes of UTF-8 before it. So the positions that a reader can come
to from the start of a text are those between two of its characters, or at its ends: there the text
can be cut. A message that names a position ends with its digits.

## Main definitions

* `Remap.Text.Cursor.Ahead` — the positions that a reader can come to.
* `Remap.Text.Cursor.Fault` — an error of a part points into the text.
* `Remap.Text.Names` — a message names a position.

## Main results

* `Remap.Text.utf8ByteSize_ofList` — the bytes that the characters of a text take.
* `Remap.Text.isValid_iff` — where a text can be cut.
* `Remap.Text.Cursor.ahead_start_iff` — the positions ahead of the start are where it can be cut.
* `Remap.Text.names_iff_of_eq_some`, `Remap.Text.names_iff_of_eq_none` — which position a message
  names.
-/

namespace Remap.Text

/-- The characters of a text take as many bytes as the text has. -/
theorem utf8ByteSize_ofList (s : List Char) : (String.ofList s).utf8ByteSize = utf8Length s := by
  induction s with
  | nil => rfl
  | cons c rest ih =>
    have hfirst : (String.ofList [c]).utf8ByteSize = c.utf8Size := by
      rw [← String.singleton_eq_ofList, String.utf8ByteSize_singleton]
    rw [← List.singleton_append, String.ofList_append, String.utf8ByteSize_append, hfirst, ih,
      List.singleton_append, utf8Length_cons]

/-- A text can be cut at the bytes that some of its first characters take. -/
theorem isValid_iff {text : String} {position : Nat} :
    (⟨position⟩ : String.Pos.Raw).IsValid text ↔
      ∃ front back : List Char, text.toList = front ++ back ∧ utf8Length front = position := by
  rw [String.Pos.Raw.isValid_iff_exists_append]
  constructor
  · rintro ⟨front, back, rfl, hposition⟩
    refine ⟨front.toList, back.toList, String.toList_append, ?_⟩
    rw [← utf8ByteSize_ofList, String.ofList_toList]
    exact (congrArg String.Pos.Raw.byteIdx hposition).symm
  · rintro ⟨front, back, htext, rfl⟩
    refine ⟨String.ofList front, String.ofList back, ?_, ?_⟩
    · rw [← String.ofList_append, ← htext, String.ofList_toList]
    · rw [String.Pos.Raw.ext_iff, String.byteIdx_rawEndPos, utf8ByteSize_ofList]

namespace Cursor

/-- `c.Ahead position` says that a reader can come from the place to the position. -/
def Ahead (c : Cursor) (position : Nat) : Prop :=
  ∃ word d, c.Reads word d ∧ d.offset = position

/-- The position of the place itself. -/
theorem ahead_offset (c : Cursor) : c.Ahead c.offset :=
  ⟨[], c, Reads.refl c, rfl⟩

/-- What is ahead of a place further on is ahead of this one, too. -/
theorem Ahead.of_reads {c d : Cursor} {word : List Char} {position : Nat} (hreads : c.Reads word d)
    (h : d.Ahead position) : c.Ahead position := by
  obtain ⟨behind, e, hbehind, he⟩ := h
  exact ⟨_, e, hreads.trans hbehind, he⟩

/-- **The positions ahead of the start** are those where the text can be cut. -/
theorem ahead_start_iff {text : String} {position : Nat} :
    (start text.toList).Ahead position ↔ (⟨position⟩ : String.Pos.Raw).IsValid text := by
  rw [isValid_iff]
  constructor
  · rintro ⟨front, d, hreads, rfl⟩
    exact ⟨front, d.rest, hreads.1, by rw [hreads.2, start, Nat.zero_add]⟩
  · rintro ⟨front, back, htext, rfl⟩
    exact ⟨front, ⟨utf8Length front, back⟩, ⟨htext, (Nat.zero_add _).symm⟩, rfl⟩

/-- `c.Fault isPart position? error` says that the error is one of a part of the text that is read
from the place on, and points to a position that the reader can come to, if to any. -/
def Fault {ε : Type} (isPart : ε → Prop) (position? : ε → Option Nat) (c : Cursor) (error : ε) :
    Prop :=
  isPart error ∧ ∀ position, position? error = some position → c.Ahead position

section Fault

variable {ε : Type} {isPart : ε → Prop} {position? : ε → Option Nat} {c d : Cursor} {error : ε}

/-- An error that points to a place further on is one from here on, too. -/
theorem Fault.of_reads {word : List Char} (hreads : c.Reads word d)
    (h : d.Fault isPart position? error) : c.Fault isPart position? error :=
  ⟨h.1, fun position hposition => .of_reads hreads (h.2 position hposition)⟩

/-- An error that points nowhere. -/
theorem Fault.of_eq_none (hpart : isPart error) (h : position? error = none) :
    c.Fault isPart position? error := by
  refine ⟨hpart, fun position hposition => ?_⟩
  rw [h] at hposition
  simp at hposition

/-- An error that points to the place itself. -/
theorem Fault.of_eq_offset (hpart : isPart error) (h : position? error = some c.offset) :
    c.Fault isPart position? error := by
  refine ⟨hpart, fun position hposition => ?_⟩
  obtain rfl := Option.some.inj (h.symm.trans hposition)
  exact c.ahead_offset

end Fault

end Cursor

/-! ## Positions in messages -/

/-- `Names message position` says that the message ends by naming the position. -/
def Names (message : String) (position : Nat) : Prop :=
  ∃ front, message = front ++ " at position " ++ decimal position

/-- The last digits of a message that names a position are those of the position. -/
theorem takeWhile_isDigit_of_names {message : String} {position : Nat}
    (h : Names message position) :
    message.toList.reverse.takeWhile Char.isDigit = (decimal position).toList.reverse := by
  obtain ⟨front, rfl⟩ := h
  have hdigits : ∀ c ∈ (decimal position).toList.reverse, c.isDigit = true := by
    intro c hc
    rw [List.mem_reverse, decimal, String.toList_ofList] at hc
    exact Nat.isDigit_of_mem_toDigits (by decide) (by decide) hc
  have hstop : ∀ c ∈ (front ++ " at position ").toList.reverse.head?, c.isDigit = false := by
    intro c hc
    rw [String.toList_append, List.reverse_append] at hc
    obtain rfl : ' ' = c := by simpa using hc
    rfl
  rw [String.toList_append, List.reverse_append]
  exact congrArg Prod.fst (Cursor.span_append 0 hdigits hstop)

/-- **A message names the position that it ends with**, and no other one. -/
theorem names_iff_of_eq_some {message : String} {own position : Nat} {named? : Option Nat}
    (front word : String) (h : message = front ++ (word ++ " at position ") ++ decimal own)
    (hnamed : named? = some own) : Names message position ↔ named? = some position := by
  have hown : Names message own := ⟨front ++ word, by rw [h, ← String.append_assoc]⟩
  rw [hnamed, Option.some.injEq]
  constructor
  · intro hposition
    have hdigits :=
      (takeWhile_isDigit_of_names hown).symm.trans (takeWhile_isDigit_of_names hposition)
    exact decimal_injective (String.toList_injective (List.reverse_inj.1 hdigits))
  · rintro rfl
    exact hown

/-- A message whose last character is no digit names no position. -/
theorem names_iff_of_eq_none {message : String} {position : Nat} {named? : Option Nat}
    (front word : String) (last : Char)
    (h : message = front ++ (word ++ String.singleton last)) (hlast : last.isDigit = false)
    (hnamed : named? = none) : Names message position ↔ named? = some position := by
  rw [hnamed]
  refine iff_of_false (fun hnames => ?_) (by simp)
  have hdigits := takeWhile_isDigit_of_names hnames
  have hreverse : message.toList.reverse = last :: (front ++ word).toList.reverse := by
    rw [h, ← String.append_assoc, String.toList_append, String.toList_singleton,
      List.reverse_append, List.reverse_singleton, List.singleton_append]
  rw [hreverse, List.takeWhile_cons_of_neg (by simp [hlast])] at hdigits
  exact decimal_ne_empty position
    (String.toList_injective (List.reverse_eq_nil_iff.1 hdigits.symm))

end Remap.Text
