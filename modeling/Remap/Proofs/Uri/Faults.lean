import Remap.Proofs.Text.Position
import Remap.Proofs.Uri.Completeness
import Remap.Text.Decimal

set_option relaxedAutoImplicit false
set_option autoImplicit false

/-!
# Where the reader of URI templates stops

The items of a template text are read one after the other, and each of them by its own characters.
So what stands before a closing brace that belongs to nothing is the text of a template. Every other
error is one of a variable; it points to a place that the reader has come to, if it points anywhere.

## Main definitions

* `Remap.Uri.VariableFault` — an error of a variable.

## Main results

* `Remap.Uri.SyntaxError.eq_of_message_eq` — which error a lone closing brace is reported by.
* `Remap.Uri.SyntaxError.names_message_iff` — which position an error names.
* `Remap.Uri.readItems_eq_error_cases` — which items are read before an error.
* `Remap.Uri.parse_unexpectedClosingBrace` — what stands before a lone closing brace.
* `Remap.Uri.parse_eq_error_position?` — an error points to a place of the text.
-/

namespace Remap.Uri

open Remap.Text (Cursor Names decimal names_iff_of_eq_none names_iff_of_eq_some utf8Length)

/-! ## The text of the error -/

/-- **The text of a lone closing brace is that of no other error**, and names its position.

**Proof sketch.** One case per error. No other text begins with the same letter, and the digits of a
position determine it. -/
theorem SyntaxError.eq_of_message_eq {error : SyntaxError} {position : Nat}
    (h : error.message = (unexpectedClosingBrace position).message) :
    error = unexpectedClosingBrace position := by
  have hmessage : ∀ position : Nat, (unexpectedClosingBrace position).message.toList =
      "Unexpected closing brace at position ".toList ++ (decimal position).toList := by
    intro position
    have hown : (unexpectedClosingBrace position).message =
      "Unexpected closing brace at position " ++ decimal position := rfl
    rw [hown, String.toList_append]
  have hlist := congrArg String.toList h
  rw [hmessage] at hlist
  cases error with
  | unexpectedClosingBrace position' =>
    rw [hmessage] at hlist
    have hdigits := String.toList_injective (List.append_cancel_left hlist)
    rw [Text.decimal_injective hdigits]
  | invalidNameCharacter other position' =>
    change ("Invalid character '" ++ String.singleton other ++
      "' in variable name at position " ++ decimal position').toList = _ at hlist
    simp at hlist
  | emptyName position' =>
    change ("Empty variable name at position " ++ decimal position').toList = _ at hlist
    simp at hlist
  | expectedClosingBrace other position' =>
    change ("Expected '\x7d' but found '" ++ String.singleton other ++
      "' at position " ++ decimal position').toList = _ at hlist
    simp at hlist
  | missingClosingBrace =>
    change "Expected '\x7d' but found end of input".toList = _ at hlist
    simp at hlist

/-- An error points to the position that its text names, and only to that. -/
theorem SyntaxError.names_message_iff {error : SyntaxError} {position : Nat} :
    Names error.message position ↔ error.position? = some position := by
  cases error with
  | unexpectedClosingBrace own =>
    exact names_iff_of_eq_some "" "Unexpected closing brace" rfl rfl
  | invalidNameCharacter found own =>
    exact names_iff_of_eq_some ("Invalid character '" ++ String.singleton found)
      "' in variable name" rfl rfl
  | emptyName own => exact names_iff_of_eq_some "" "Empty variable name" rfl rfl
  | expectedClosingBrace found own =>
    exact names_iff_of_eq_some ("Expected '\x7d' but found '" ++ String.singleton found) "'" rfl rfl
  | missingClosingBrace =>
    exact names_iff_of_eq_none "" "Expected '\x7d' but found end of inpu" 't' rfl rfl rfl

/-! ## Errors of a variable -/

/-- `VariableFault c error` says that the error is one of a variable that is read from the place on:
it is not that of a closing brace between items, and it points to a position that the reader can
come to, if to any. -/
def VariableFault (c : Cursor) (error : SyntaxError) : Prop :=
  c.Fault (fun error => ∀ position, error ≠ .unexpectedClosingBrace position)
    SyntaxError.position? error

/-- The error of a name points behind its characters. -/
theorem variableFault_of_readName {c : Cursor} {error : SyntaxError}
    (h : readName c = .error error) : VariableFault c error := by
  refine .of_reads (c.reads_span isNameChar) ?_
  rcases readName_cases c with ⟨-, hread⟩ | ⟨found, rest, -, -, hread⟩
  · rw [hread] at h
    obtain ⟨-, rfl⟩ := named_eq_error_iff.1 h
    exact .of_eq_offset (by simp) rfl
  · obtain rfl := Except.error.inj (hread.symm.trans h)
    exact .of_eq_offset (by simp) rfl

/-- The error of a closing brace points to its place, if anywhere. -/
theorem variableFault_of_readClosing {c : Cursor} {error : SyntaxError}
    (h : readClosing c = .error error) : VariableFault c error := by
  rcases readClosing_cases c with ⟨-, hread⟩ | ⟨first, rest, -, ⟨-, hread⟩ | ⟨-, hread⟩⟩
  · obtain rfl := Except.error.inj (hread.symm.trans h)
    exact .of_eq_none (by simp) rfl
  · simp [hread] at h
  · obtain rfl := Except.error.inj (hread.symm.trans h)
    exact .of_eq_offset (by simp) rfl

/-- The error of a variable points into it, if anywhere. -/
theorem variableFault_of_readVariable {c : Cursor} {error : SyntaxError}
    (h : readVariable c = .error error) : VariableFault c error := by
  have hreadsName := c.reads_skipBlanks.trans (reads_readOperator c.skipBlanks)
  rcases readVariable_eq_error_iff.1 h with hname | ⟨name, afterName, hname, hclose⟩
  · exact .of_reads hreadsName (variableFault_of_readName hname)
  · obtain ⟨-, -, hreadsOwn⟩ := spells_of_readName hname
    obtain ⟨announced, -, hreadsFallback⟩ := spells_readFallback afterName.skipBlanks
    exact .of_reads
      (hreadsName.trans (hreadsOwn.trans (afterName.reads_skipBlanks.trans hreadsFallback)))
      (variableFault_of_readClosing hclose)

/-- Where no item is read, either there is a closing brace without a second one, or a variable with
an error in it. -/
theorem readItem?_eq_error_cases {c : Cursor} {error : SyntaxError}
    (h : readItem? c = .error error) :
    (∃ rest, c.rest = '}' :: rest ∧ rest.head? ≠ some '}' ∧
        error = .unexpectedClosingBrace c.offset) ∨
      VariableFault c error := by
  rcases readItem?_cases c with ⟨-, hread⟩ | ⟨brace, rest, -, -, hread⟩ |
    ⟨rest, hrest, -, hread⟩ | ⟨rest, hrest, hhead, hread⟩ | ⟨first, rest, -, -, -, hread⟩
  · simp [hread] at h
  · simp [hread] at h
  · right
    rw [hread] at h
    exact .of_reads (Cursor.reads_after hrest)
      (variableFault_of_readVariable (map_eq_error_iff.1 h))
  · left
    exact ⟨rest, hrest, hhead, Except.error.inj (h.symm.trans hread)⟩
  · simp [hread] at h

/-! ## Whole texts -/

/-- **The items before an error.** Where reading items fails, it has read some, up to a place where
no item is read. -/
theorem readItems_eq_error_cases {c : Cursor} {error : SyntaxError}
    (h : readItems c = .error error) :
    ∃ items word d, ItemsSpell items word ∧ c.Reads word d ∧ readItem? d = .error error := by
  fun_induction readItems c with
  | case1 c error' hread =>
    obtain rfl := Except.error.inj h
    exact ⟨[], [], c, .nil, Cursor.Reads.refl c, hread⟩
  | case2 => simp at h
  | case3 c item next hread ih =>
    obtain ⟨items, word, d, hspells, hreads, herror⟩ := ih (map_eq_error_iff.1 h)
    obtain ⟨own, hown, hreadsOwn⟩ := spells_of_readItem? hread
    exact ⟨item :: items, own ++ word, d, .cons hown hspells, hreadsOwn.trans hreads, herror⟩

/-- **What stands before a lone closing brace** is the text of a template, and no second brace
stands behind it.

**Proof sketch.** The items before the brace are read (`readItems_eq_error_cases`), so the
characters before it spell them. -/
theorem parse_unexpectedClosingBrace {text : String} {position : Nat}
    (h : parse text = .error (.unexpectedClosingBrace position)) :
    ∃ front back : List Char, text.toList = front ++ '}' :: back ∧
      utf8Length front = position ∧ back.head? ≠ some '}' ∧
      ∃ t, parse (String.ofList front) = .ok t := by
  obtain ⟨items, front, d, hspells, hreads, herror⟩ :=
    readItems_eq_error_cases (map_eq_error_iff.1 h)
  obtain ⟨back, hback, hhead, hposition⟩ | hfault := readItem?_eq_error_cases herror
  · obtain rfl := SyntaxError.unexpectedClosingBrace.inj hposition
    refine ⟨front, back, ?_, ?_, hhead, ⟨Part.ofItems items⟩, ?_⟩
    · rw [← hback]
      exact hreads.1
    · rw [hreads.2, Cursor.start, Nat.zero_add]
    · rw [parse_eq_ok_iff_spells, String.toList_ofList]
      exact ⟨items, hspells, Part.ofItems_eq_iff.1 rfl⟩
  · exact absurd rfl (hfault.1 position)

/-- **An error points to a place of the text**, if to any. -/
theorem parse_eq_error_position? {text : String} {error : SyntaxError} {position : Nat}
    (h : parse text = .error error) (hposition : error.position? = some position) :
    (Cursor.start text.toList).Ahead position := by
  obtain ⟨items, word, d, -, hreads, herror⟩ := readItems_eq_error_cases (map_eq_error_iff.1 h)
  obtain ⟨back, -, -, rfl⟩ | hfault := readItem?_eq_error_cases herror
  · obtain rfl := Option.some.inj hposition
    exact .of_reads hreads d.ahead_offset
  · exact (Cursor.Fault.of_reads hreads hfault).2 position hposition

end Remap.Uri
