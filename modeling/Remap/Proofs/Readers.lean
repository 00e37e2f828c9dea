import Mathlib
import Remap.Proofs.Expression.Faults
import Remap.Proofs.Expression.Scanning
import Remap.Proofs.Uri.Faults
import Remap.Proofs.Uri.Scanning

set_option relaxedAutoImplicit false
set_option autoImplicit false

/-!
# Where the readers stand and where they stop

What can be said of the reader of path expressions and of the reader of URI templates alike. Their
positions count bytes, and yet they are never inside a character, neither on the way nor in an
error. And an error between two accessors or two items names the first character that cannot be
there: everything before it is read.

## Main results

* `Remap.syntaxErrors_name_first_offender` — what stands before an unexpected character, and what
  may stand behind it.
* `Remap.readers_stay_between_characters` — both readers are safe.
-/

namespace Remap

/-! ## Unexpected characters -/

/-- A text is its first characters, the next one and the others. -/
theorem eq_append_of_toList_eq {text : String} {front back : List Char} {c : Char}
    (h : text.toList = front ++ c :: back) :
    text = String.ofList front ++ (String.singleton c ++ String.ofList back) := by
  apply String.toList_injective
  rw [h, String.toList_append, String.toList_append, String.toList_ofList, String.toList_ofList,
    String.toList_singleton, List.singleton_append]

/-- **Syntax errors name the first offending character.** Where a source has an unexpected
character, it has that character at that byte; what stands before it is the source of an expression,
and every text that goes on with the character is refused with the same message. Where a template
has an unexpected closing brace, it has a closing brace at that byte that is not doubled, and what
stands before it is the text of a template.

**Proof sketch.** Both errors are known by their messages (`eq_of_message_eq`), and what stands
before them from the parts that were read. -/
theorem syntaxErrors_name_first_offender :
    (∀ (source : String) (error : Expression.SyntaxError) (found : Char) (position : Nat),
      Expression.parse source = .error error →
      error.message = s!"Unexpected character '{found}' at position {position}" →
      ∃ front back : String, source = front ++ (String.singleton found ++ back) ∧
        front.utf8ByteSize = position ∧ (∃ e, Expression.parse front = .ok e) ∧
        ∀ rest : String, ∃ error',
          Expression.parse (front ++ (String.singleton found ++ rest)) = .error error' ∧
            error'.message = error.message) ∧
    ∀ (text : String) (error : Uri.SyntaxError) (position : Nat),
      Uri.parse text = .error error →
      error.message = s!"Unexpected closing brace at position {position}" →
      ∃ front back : String, text = front ++ (String.singleton '}' ++ back) ∧
        front.utf8ByteSize = position ∧ (∀ rest, back ≠ String.singleton '}' ++ rest) ∧
        ∃ t, Uri.parse front = .ok t := by
  constructor
  · intro source error found position hparse hmessage
    obtain rfl := Expression.SyntaxError.eq_of_message_eq hmessage
    obtain ⟨front, back, hsource, hposition, hfront, hsame⟩ :=
      Expression.parse_unexpectedCharacter hparse
    refine ⟨String.ofList front, String.ofList back, eq_append_of_toList_eq hsource, ?_, hfront,
      fun rest => ⟨_, ?_, rfl⟩⟩
    · rw [Text.utf8ByteSize_ofList, hposition]
    · have htext : String.ofList front ++ (String.singleton found ++ rest) =
          String.ofList (front ++ found :: rest.toList) := by
        have h := eq_append_of_toList_eq (String.toList_ofList (l := front ++ found :: rest.toList))
        rw [h, String.ofList_toList]
      rw [htext, hsame]
  · intro text error position hparse hmessage
    obtain rfl := Uri.SyntaxError.eq_of_message_eq hmessage
    obtain ⟨front, back, htext, hposition, hhead, hfront⟩ := Uri.parse_unexpectedClosingBrace hparse
    refine ⟨String.ofList front, String.ofList back, eq_append_of_toList_eq htext, ?_, ?_, hfront⟩
    · rw [Text.utf8ByteSize_ofList, hposition]
    · intro rest hback
      have hlist := congrArg String.toList hback
      rw [String.toList_ofList, String.toList_append, String.toList_singleton] at hlist
      rw [hlist] at hhead
      exact hhead rfl

/-- A hyphen behind a name of one letter of two bytes, and a brace behind such a letter. -/
theorem syntaxErrors_name_first_offender_two_bytes :
    (∃ front back : String, "m['é'] -☃x" = front ++ (String.singleton '-' ++ back) ∧
      front.utf8ByteSize = 8 ∧ (∃ e, Expression.parse front = .ok e) ∧
      ∀ rest : String, ∃ error',
        Expression.parse (front ++ (String.singleton '-' ++ rest)) = .error error' ∧
          error'.message = "Unexpected character '-' at position 8") ∧
    ∃ front back : String, "/é/\x7dx" = front ++ (String.singleton '}' ++ back) ∧
      front.utf8ByteSize = 4 ∧ (∀ rest, back ≠ String.singleton '}' ++ rest) ∧
      ∃ t, Uri.parse front = .ok t :=
  ⟨syntaxErrors_name_first_offender.1 "m['é'] -☃x" (.unexpectedCharacter '-' 8) '-' 8 (by cbv) rfl,
    syntaxErrors_name_first_offender.2 "/é/\x7dx" (.unexpectedClosingBrace 4) 4 (by cbv) rfl⟩

/-! ## Positions -/

/-- **Both readers stay between the characters of the text**: their runs are safe and end with the
outcome of the reader, and every position that an error names is one where the text can be cut.

**Proof sketch.** Both scanners follow their readers (`follows`), stage by stage, and the text of an
error names no other position than the error does (`names_message_iff`). -/
theorem readers_stay_between_characters (text : String) :
    (Expression.scanner.Safe text (Expression.parse text) ∧
      ∀ error position, Expression.parse text = .error error →
        Text.Names error.message position →
        (⟨position⟩ : String.Pos.Raw).IsValid text ∧ position ≤ text.utf8ByteSize) ∧
    Uri.scanner.Safe text (Uri.parse text) ∧
      ∀ error position, Uri.parse text = .error error → Text.Names error.message position →
        (⟨position⟩ : String.Pos.Raw).IsValid text ∧ position ≤ text.utf8ByteSize := by
  have hplace : ∀ position, (Text.Cursor.start text.toList).Ahead position →
      (⟨position⟩ : String.Pos.Raw).IsValid text ∧ position ≤ text.utf8ByteSize := by
    intro position h
    have hvalid := Text.Cursor.ahead_start_iff.1 h
    exact ⟨hvalid, hvalid.le_rawEndPos⟩
  refine ⟨⟨?_, fun error position hparse hnames => ?_⟩, ?_, fun error position hparse hnames => ?_⟩
  · rw [← Expression.resume_leading]
    exact Expression.follows.safe text
  · exact hplace position (Expression.parse_eq_error_position? hparse
      (Expression.SyntaxError.names_message_iff.1 hnames))
  · rw [← Uri.resume_items]
    exact Uri.follows.safe text
  · exact hplace position (Uri.parse_eq_error_position? hparse
      (Uri.SyntaxError.names_message_iff.1 hnames))

/-- A backslash at the end of a source, and a brace behind a doubled one and a letter of two
bytes. -/
theorem readers_stay_between_characters_two_bytes :
    ((⟨9⟩ : String.Pos.Raw).IsValid "m['é☃\\" ∧ 9 ≤ "m['é☃\\".utf8ByteSize) ∧
      (⟨4⟩ : String.Pos.Raw).IsValid "\x7b\x7bé\x7dx" ∧ 4 ≤ "\x7b\x7bé\x7dx".utf8ByteSize :=
  ⟨(readers_stay_between_characters "m['é☃\\").1.2 (.unexpectedEnd 9) 9 (by cbv)
      ⟨"Unexpected end of input", rfl⟩,
    (readers_stay_between_characters "\x7b\x7bé\x7dx").2.2 (.unexpectedClosingBrace 4) 4 (by cbv)
      ⟨"Unexpected closing brace", rfl⟩⟩

end Remap
