import Remap.Proofs.Expression.Completeness
import Remap.Proofs.Text.Position
import Remap.Text.Decimal

set_option relaxedAutoImplicit false
set_option autoImplicit false

/-!
# Where the reader of path expressions stops

An accessor is recognised by its own characters and the one behind them: the same characters are
read as the same accessor whatever follows, as long as the next character stays the same. So when a
source has an unexpected character between two accessors, what stands before that character is the
source of an expression, and everything that goes on with that character is refused for it.

Every other error of a part points to a place that the reader has come to, if it points anywhere.

## Main definitions

* `Remap.Expression.PartFault` — an error of one accessor or of the root.

## Main results

* `Remap.Expression.SyntaxError.eq_of_message_eq` — which error an unexpected character is reported
  by.
* `Remap.Expression.SyntaxError.names_message_iff` — which position an error names.
* `Remap.Expression.readAccessor?_eq_ok_some_iff` — one character of lookahead decides.
* `Remap.Expression.readAccessors_eq_error_cases` — which accessors are read before an error.
* `Remap.Expression.parse_unexpectedCharacter` — what stands before an unexpected character.
* `Remap.Expression.parse_eq_error_position?` — an error points to a place of the source.
-/

namespace Remap.Expression

open Remap.Text (Blanks Cursor Names decimal isBlank names_iff_of_eq_none names_iff_of_eq_some
  utf8Length)

/-! ## The text of the error -/

namespace SyntaxError

/-- The text of an unexpected character between accessors. -/
theorem toList_message_unexpectedCharacter (found : Char) (position : Nat) :
    (unexpectedCharacter found position).message.toList =
      "Unexpected character '".toList ++
        found :: ("' at position ".toList ++ (decimal position).toList) := by
  have h : (unexpectedCharacter found position).message =
    "Unexpected character '" ++ String.singleton found ++ "' at position " ++
      decimal position := rfl
  rw [h]
  simp

/-- The text of an unexpected character in brackets. -/
theorem toList_message_unexpectedInBrackets (found : Char) (position : Nat) :
    (unexpectedInBrackets found position).message.toList =
      "Unexpected character '".toList ++
        found :: ("' in brackets at position ".toList ++ (decimal position).toList) := by
  have h : (unexpectedInBrackets found position).message =
    "Unexpected character '" ++ String.singleton found ++ "' in brackets at position " ++
      decimal position := rfl
  rw [h]
  simp

/-- **The text of an unexpected character is that of no other error**, and names the character and
its position.

**Proof sketch.** One case per error. The other texts differ in their first words, or behind the
character where they have one, and the digits of a position determine it. -/
theorem eq_of_message_eq {error : SyntaxError} {found : Char} {position : Nat}
    (h : error.message = (unexpectedCharacter found position).message) :
    error = unexpectedCharacter found position := by
  have hlist := congrArg String.toList h
  rw [toList_message_unexpectedCharacter] at hlist
  cases error with
  | unexpectedCharacter other position' =>
    rw [toList_message_unexpectedCharacter] at hlist
    obtain ⟨rfl, hbehind⟩ := List.cons.inj (List.append_cancel_left hlist)
    have hdigits := String.toList_injective (List.append_cancel_left hbehind)
    rw [Text.decimal_injective hdigits]
  | unexpectedInBrackets other position' =>
    rw [toList_message_unexpectedInBrackets] at hlist
    have hbehind := List.append_cancel_left hlist
    simp at hbehind
  | endInBrackets =>
    change "Unexpected end of input in brackets".toList = _ at hlist
    simp at hlist
  | expectedIdentifier position' =>
    change ("Expected identifier at position " ++ decimal position').toList = _ at hlist
    simp at hlist
  | unknownRoot name position' =>
    change ("Unknown root symbol '" ++ name ++ "' at position " ++ decimal position').toList = _
      at hlist
    simp at hlist
  | indexTooLarge digits =>
    change ("Invalid index '" ++ digits ++
      "': number too large to fit in target type").toList = _ at hlist
    simp at hlist
  | unterminatedString =>
    change "Unterminated string literal".toList = _ at hlist
    simp at hlist
  | unexpectedEnd position' =>
    change ("Unexpected end of input at position " ++ decimal position').toList = _ at hlist
    simp at hlist
  | expectedBracket other position' =>
    change ("Expected ']' but found '" ++ String.singleton other ++ "' at position " ++
      decimal position').toList = _ at hlist
    simp at hlist
  | missingBracket =>
    change "Expected ']' but found end of input".toList = _ at hlist
    simp at hlist

/-- An error points to the position that its text names, and only to that. -/
theorem names_message_iff {error : SyntaxError} {position : Nat} :
    Names error.message position ↔ error.position? = some position := by
  cases error with
  | unexpectedCharacter found own =>
    exact names_iff_of_eq_some ("Unexpected character '" ++ String.singleton found) "'" rfl rfl
  | unexpectedInBrackets found own =>
    exact names_iff_of_eq_some ("Unexpected character '" ++ String.singleton found) "' in brackets"
      rfl rfl
  | expectedIdentifier own => exact names_iff_of_eq_some "" "Expected identifier" rfl rfl
  | unknownRoot name own => exact names_iff_of_eq_some ("Unknown root symbol '" ++ name) "'" rfl rfl
  | unexpectedEnd own => exact names_iff_of_eq_some "" "Unexpected end of input" rfl rfl
  | expectedBracket found own =>
    exact names_iff_of_eq_some ("Expected ']' but found '" ++ String.singleton found) "'" rfl rfl
  | endInBrackets =>
    exact names_iff_of_eq_none "" "Unexpected end of input in bracket" 's' rfl rfl rfl
  | indexTooLarge digits =>
    exact names_iff_of_eq_none ("Invalid index '" ++ digits)
      "': number too large to fit in target typ" 'e' rfl rfl rfl
  | unterminatedString => exact names_iff_of_eq_none "" "Unterminated string litera" 'l' rfl rfl rfl
  | missingBracket =>
    exact names_iff_of_eq_none "" "Expected ']' but found end of inpu" 't' rfl rfl rfl

end SyntaxError

/-! ## Errors of a part -/

/-- `PartFault c error` says that the error is one of an accessor or a root that is read from the
place on: it is not that of a character between accessors, and it points to a position that the
reader can come to, if to any. -/
def PartFault (c : Cursor) (error : SyntaxError) : Prop :=
  c.Fault (fun error => ∀ found position, error ≠ .unexpectedCharacter found position)
    SyntaxError.position? error

/-- The error of an identifier points to its place. -/
theorem partFault_of_readIdentifier {c : Cursor} {error : SyntaxError}
    (h : readIdentifier c = .error error) : PartFault c error := by
  rcases c.head?_cases isIdentifierStart with ⟨first, rest, hrest, hfirst⟩ | hstop
  · simp [readIdentifier_of_pos hrest hfirst] at h
  · rw [readIdentifier_of_head? hstop] at h
    obtain rfl := Except.error.inj h
    exact .of_eq_offset (by simp) rfl

/-- The error of a root points to its place. -/
theorem partFault_of_readRoot {c : Cursor} {error : SyntaxError} (h : readRoot c = .error error) :
    PartFault c error := by
  rcases readRoot_cases c with ⟨error', hname, hread⟩ | ⟨root, next, -, hread⟩ |
    ⟨name, next, -, -, -, hread⟩
  · obtain rfl := Except.error.inj (hread.symm.trans h)
    exact partFault_of_readIdentifier hname
  · simp [hread] at h
  · obtain rfl := Except.error.inj (hread.symm.trans h)
    exact .of_eq_offset (by simp) rfl

/-- The error of a quoted name points behind a backslash, if anywhere. -/
theorem partFault_of_readQuoted {quote : Char} {offset : Nat} {s : List Char} {error : SyntaxError}
    (h : readQuoted quote offset s = .error error) : PartFault ⟨offset, s⟩ error := by
  fun_induction readQuoted quote offset s with
  | case1 offset =>
    obtain rfl := Except.error.inj h
    exact .of_eq_none (by simp) rfl
  | case2 offset =>
    obtain rfl := Except.error.inj h
    have hreads : (Cursor.mk offset ['\\']).Reads ['\\'] ⟨offset + 1, []⟩ := ⟨rfl, rfl⟩
    exact .of_reads hreads (.of_eq_offset (by simp) rfl)
  | case3 offset escaped rest ih =>
    have hreads : (Cursor.mk offset ('\\' :: escaped :: rest)).Reads ['\\', escaped]
        ⟨offset + 1 + escaped.utf8Size, rest⟩ :=
      Cursor.reads_cons_iff.2 ⟨_, rfl, Cursor.reads_after rfl⟩
    exact .of_reads hreads (ih (map_eq_error_iff.1 h))
  | case4 => simp at h
  | case5 offset c rest _ _ _ ih =>
    exact .of_reads (Cursor.reads_after rfl) (ih (map_eq_error_iff.1 h))

/-- The error of the content of brackets points into it, if anywhere. -/
theorem partFault_of_readContent {c : Cursor} {error : SyntaxError}
    (h : readContent c = .error error) : PartFault c error := by
  rcases readContent_cases c with ⟨-, hread⟩ | ⟨first, rest, hrest,
    ⟨-, hread⟩ | ⟨-, -, hread⟩ | ⟨-, -, hread⟩⟩
  · obtain rfl := Except.error.inj (hread.symm.trans h)
    exact .of_eq_none (by simp) rfl
  · rw [hread, map_eq_error_iff] at h
    exact .of_reads (Cursor.reads_after hrest) (partFault_of_readQuoted h)
  · rw [hread] at h
    cases hposition : Text.ofDigits? (c.span Char.isDigit).1 with
    | some position => simp [hposition] at h
    | none =>
      rw [hposition] at h
      obtain rfl := Except.error.inj h
      exact .of_eq_none (by simp) rfl
  · obtain rfl := Except.error.inj (hread.symm.trans h)
    exact .of_eq_offset (by simp) rfl

/-- The error of a closing bracket points to its place, if anywhere. -/
theorem partFault_of_readClosing {c : Cursor} {error : SyntaxError}
    (h : readClosing c = .error error) : PartFault c error := by
  rcases readClosing_cases c with ⟨-, hread⟩ | ⟨first, rest, -, ⟨-, hread⟩ | ⟨-, hread⟩⟩
  · obtain rfl := Except.error.inj (hread.symm.trans h)
    exact .of_eq_none (by simp) rfl
  · simp [hread] at h
  · obtain rfl := Except.error.inj (hread.symm.trans h)
    exact .of_eq_offset (by simp) rfl

/-- The error of what follows an opening bracket points into it, if anywhere. -/
theorem partFault_of_readBracketed {c : Cursor} {error : SyntaxError}
    (h : readBracketed c = .error error) : PartFault c error := by
  rcases readBracketed_eq_error_iff.1 h with hcontent | ⟨accessor, next, hcontent, hclose⟩
  · exact .of_reads c.reads_skipBlanks (partFault_of_readContent hcontent)
  · obtain ⟨word, -, hreads⟩ := spellsContent_of_readContent hcontent
    exact .of_reads (c.reads_skipBlanks.trans (hreads.trans next.reads_skipBlanks))
      (partFault_of_readClosing hclose)

/-- Where no accessor is read, either there is a character that starts none, or there is one that
starts an accessor with an error in it. -/
theorem readAccessor?_eq_error_cases {c : Cursor} {error : SyntaxError}
    (h : readAccessor? c = .error error) :
    (∃ found rest, c.rest = found :: rest ∧ found ≠ '.' ∧ found ≠ '[' ∧
        error = .unexpectedCharacter found c.offset) ∨
      PartFault c error := by
  rcases readAccessor?_cases c with ⟨-, hread⟩ | ⟨first, rest, hrest,
    ⟨-, hread⟩ | ⟨-, hread⟩ | ⟨hpoint, hbracket, hread⟩⟩
  · simp [hread] at h
  · right
    rw [hread, map_eq_error_iff] at h
    exact .of_reads (Cursor.reads_after hrest) (partFault_of_readIdentifier h)
  · right
    rw [hread, map_eq_error_iff] at h
    exact .of_reads (Cursor.reads_after hrest) (partFault_of_readBracketed h)
  · left
    exact ⟨first, rest, hrest, hpoint, hbracket, Except.error.inj (h.symm.trans hread)⟩

/-! ## One character of lookahead -/

/-- A character that starts no accessor is unexpected whatever follows it. -/
theorem readAccessor?_unexpectedCharacter {c d : Cursor} {found : Char} {position : Nat}
    (h : readAccessor? c = .error (.unexpectedCharacter found position))
    (hoffset : d.offset = c.offset) (hhead : d.rest.head? = some found) :
    readAccessor? d = .error (.unexpectedCharacter found position) := by
  obtain ⟨rest, hd⟩ : ∃ rest, d.rest = found :: rest := List.head?_eq_some_iff.1 hhead
  obtain ⟨first, others, -, hpoint, hbracket, herror⟩ | hfault := readAccessor?_eq_error_cases h
  · obtain ⟨rfl, rfl⟩ := SyntaxError.unexpectedCharacter.inj herror
    simp only [readAccessor?, hd, if_neg hpoint, if_neg hbracket, hoffset]
  · exact absurd rfl (hfault.1 found position)

/-- **One character of lookahead decides**: a source of an accessor is read as that accessor, unless
it is a name behind a point and more of the name follows it. -/
theorem readAccessor?_eq_ok_some_iff {c d : Cursor} {a : Accessor} :
    readAccessor? c = .ok (some (a, d)) ↔ ∃ word, a.Spells word ∧ c.Reads word d ∧
      (word.head? = some '.' → ∀ ch ∈ d.rest.head?, isIdentifierChar ch = false) := by
  constructor
  · intro h
    obtain ⟨word, hspells, hreads⟩ := spells_of_readAccessor? h
    refine ⟨word, hspells, hreads, fun hpoint => ?_⟩
    have hhead : c.rest.head? = some '.' := by
      rw [hreads.1, List.head?_append, hpoint, Option.some_or]
    obtain ⟨rest, hrest⟩ := List.head?_eq_some_iff.1 hhead
    simp only [readAccessor?, hrest, if_true] at h
    obtain ⟨⟨name, next⟩, hname, heq⟩ := map_eq_ok_iff.1 h
    obtain ⟨-, rfl⟩ := Prod.mk.inj (Option.some.inj heq)
    exact (readIdentifier_eq_ok_iff.1 hname).2.2
  · rintro ⟨word, hspells, hreads, hstop⟩
    cases hspells with
    | point hname => exact readAccessor?_of_spells (.point hname) hreads (hstop rfl)
    | brackets hbefore hcontent hafter =>
      exact readAccessor?_of_brackets hbefore hcontent hafter hreads

/-- A character that starts no accessor and is no blank is unexpected before accessors, too. -/
theorem readAccessors_unexpectedCharacter {c d : Cursor} {found : Char} {position : Nat}
    (h : readAccessor? c = .error (.unexpectedCharacter found position))
    (hoffset : d.offset = c.offset) (hhead : d.rest.head? = some found)
    (hstop : ∀ ch ∈ d.rest.head?, isBlank ch = false) :
    readAccessors d = .error (.unexpectedCharacter found position) := by
  rw [readAccessors_eq, Cursor.skipBlanks_of_head? hstop,
    readAccessor?_unexpectedCharacter h hoffset hhead]

/-- Blanks before accessors do not matter. -/
theorem readAccessors_skipBlanks (c : Cursor) : readAccessors c.skipBlanks = readAccessors c := by
  have hstop := (Cursor.skipBlanks_eq_iff.1 (rfl : c.skipBlanks = _)).2
  rw [readAccessors_eq, Cursor.skipBlanks_of_head? hstop, ← readAccessors_eq]

/-- **The accessors before an error.** Where reading accessors fails, it has read some, up to a
place where no accessor is read. From every other place on, the same characters with the same one
behind them are read as the same accessors.

**Proof sketch.** By the recursion of the reader. The characters of an accessor, and the blanks
before it, are followed by the same character in both texts, so that they are read alike. -/
theorem readAccessors_eq_error_cases {c : Cursor} {error : SyntaxError}
    (h : readAccessors c = .error error) :
    ∃ as word d, AccessorsSpell as word ∧ c.Reads word d ∧ readAccessor? d = .error error ∧
      (∀ ch ∈ d.rest.head?, isBlank ch = false) ∧
      ∀ c' d', c'.Reads word d' → d'.rest.head? = d.rest.head? →
        readAccessors c' = (readAccessors d').map (as ++ ·) := by
  fun_induction readAccessors c with
  | case1 c error' hread =>
    obtain rfl := Except.error.inj h
    obtain ⟨⟨blanks, hblanks, hreads⟩, hstop⟩ := Cursor.skipBlanks_eq_iff.1 (rfl : c.skipBlanks = _)
    refine ⟨[], blanks, c.skipBlanks, .nil hblanks, hreads, hread, hstop, ?_⟩
    intro c' d' hreads' hhead
    have hskip : c'.skipBlanks = d' :=
      Cursor.skipBlanks_eq_iff.2 ⟨⟨blanks, hblanks, hreads'⟩, by rwa [hhead]⟩
    rw [← readAccessors_skipBlanks, hskip]
    cases readAccessors d' <;> simp [Except.map]
  | case2 => simp at h
  | case3 c a next hread ih =>
    obtain ⟨as, behind, d, hbehind, hreadsBehind, herror, hstop, hsame⟩ :=
      ih (map_eq_error_iff.1 h)
    obtain ⟨⟨blanks, hblanks, hreads⟩, hstopBlanks⟩ :=
      Cursor.skipBlanks_eq_iff.1 (rfl : c.skipBlanks = _)
    obtain ⟨own, hown, hreadsOwn, hlookahead⟩ := readAccessor?_eq_ok_some_iff.1 hread
    refine ⟨a :: as, blanks ++ (own ++ behind), d, .cons hblanks hown hbehind,
      hreads.trans (hreadsOwn.trans hreadsBehind), herror, hstop, ?_⟩
    intro c' d' hreads' hhead
    obtain ⟨atOwn, hreadsBlanks', hreads'⟩ := Cursor.reads_append_iff.1 hreads'
    obtain ⟨next', hreadsOwn', hreadsBehind'⟩ := Cursor.reads_append_iff.1 hreads'
    have hnext : next'.rest.head? = next.rest.head? := by
      rw [hreadsBehind.1, hreadsBehind'.1, List.head?_append, List.head?_append, hhead]
    have hskip : c'.skipBlanks = atOwn := by
      refine Cursor.skipBlanks_eq_iff.2 ⟨⟨blanks, hblanks, hreadsBlanks'⟩, ?_⟩
      rw [hreadsOwn.1] at hstopBlanks
      rw [hreadsOwn'.1]
      rwa [List.head?_append, hnext, ← List.head?_append]
    have hread' : readAccessor? c'.skipBlanks = .ok (some (a, next')) := by
      rw [hskip]
      exact readAccessor?_eq_ok_some_iff.2 ⟨own, hown, hreadsOwn', by rwa [hnext]⟩
    rw [readAccessors_eq, hread']
    simp only [hsame next' d' hreadsBehind' hhead]
    cases readAccessors d' <;> simp [Except.map]

/-! ## Whole sources -/

/-- An expression is read as its root and then as accessors. -/
theorem parse_eq_error_cases {source : String} {error : SyntaxError}
    (h : parse source = .error error) :
    (∃ word c, (Cursor.start source.toList).Reads word c ∧ PartFault c error) ∨
      ∃ (root : Root) (before : List Char) (c : Cursor), Blanks before ∧
        (Cursor.start source.toList).Reads (before ++ root.source) c ∧
        (∀ ch ∈ c.rest.head?, isIdentifierChar ch = false) ∧ readAccessors c = .error error := by
  obtain ⟨⟨before, hbefore, hreads⟩, -⟩ :=
    Cursor.skipBlanks_eq_iff.1 (rfl : (Cursor.start source.toList).skipBlanks = _)
  rw [parse] at h
  cases hroot : readRoot (Cursor.start source.toList).skipBlanks with
  | error error' =>
    rw [hroot] at h
    obtain rfl := Except.error.inj h
    left
    exact ⟨before, _, hreads, partFault_of_readRoot hroot⟩
  | ok result =>
    obtain ⟨root, next⟩ := result
    rw [hroot] at h
    obtain ⟨hreadsRoot, hstop⟩ := readRoot_eq_ok_iff.1 hroot
    right
    exact ⟨root, before, next, hbefore, hreads.trans hreadsRoot, hstop, map_eq_error_iff.1 h⟩

/-- **What stands before an unexpected character** is the source of an expression, and every text
that goes on with that character is refused for it.

**Proof sketch.** The root and the accessors before the character are read
(`readAccessors_eq_error_cases`), so they spell an expression. Every text that goes on with the
character has the same character behind them, so they are read again, up to the same place. -/
theorem parse_unexpectedCharacter {source : String} {found : Char} {position : Nat}
    (h : parse source = .error (.unexpectedCharacter found position)) :
    ∃ front back : List Char, source.toList = front ++ found :: back ∧
      utf8Length front = position ∧ (∃ e, parse (String.ofList front) = .ok e) ∧
      ∀ rest : List Char, parse (String.ofList (front ++ found :: rest)) =
        .error (.unexpectedCharacter found position) := by
  obtain ⟨word, c, -, hfault⟩ | ⟨root, before, c, hbefore, hreads, hstop, herror⟩ :=
    parse_eq_error_cases h
  · exact absurd rfl (hfault.1 found position)
  obtain ⟨as, word, d, hspells, hreadsWord, hread, hstopBlanks, hsame⟩ :=
    readAccessors_eq_error_cases herror
  obtain ⟨ch, back, hback, -, -, hposition⟩ | hfault := readAccessor?_eq_error_cases hread
  · obtain ⟨rfl, rfl⟩ := SyntaxError.unexpectedCharacter.inj hposition
    have hreadsFront := hreads.trans hreadsWord
    have hlength : utf8Length (before ++ root.source ++ word) = d.offset := by
      rw [hreadsFront.2, Cursor.start, Nat.zero_add]
    refine ⟨before ++ root.source ++ word, back, ?_, hlength, ?_, fun rest => ?_⟩
    · rw [← hback]
      exact hreadsFront.1
    · refine ⟨⟨root, as⟩, parse_eq_ok_iff_spells.2 ?_⟩
      rw [String.toList_ofList, List.append_assoc]
      exact .mk hbefore root hspells
    · -- The place of the character in the new text, and the place behind its root.
      have hreads' : (Cursor.start (String.ofList (before ++ root.source ++ word ++
          found :: rest)).toList).Reads (before ++ root.source ++ word) ⟨d.offset, found :: rest⟩ :=
        ⟨by rw [String.toList_ofList, Cursor.start], by rw [← hlength, Cursor.start, Nat.zero_add]⟩
      obtain ⟨c', hreadsRoot', hreadsWord'⟩ := Cursor.reads_append_iff.1 hreads'
      have hhead : (found :: rest).head? = d.rest.head? := by
        rw [hback]
        rfl
      have hstop' : ∀ ch ∈ c'.rest.head?, isIdentifierChar ch = false := by
        rw [hreadsWord.1] at hstop
        rwa [hreadsWord'.1, List.head?_append, hhead, ← List.head?_append]
      have hread' : readAccessors ⟨d.offset, found :: rest⟩ =
          .error (.unexpectedCharacter found d.offset) :=
        readAccessors_unexpectedCharacter hread rfl rfl (by rwa [hhead])
      rw [parse_of_reads hbefore hreadsRoot' hstop', hsame c' _ hreadsWord' hhead, hread']
      rfl
  · exact absurd rfl (hfault.1 found position)

/-- **An error points to a place of the source**, if to any. -/
theorem parse_eq_error_position? {source : String} {error : SyntaxError} {position : Nat}
    (h : parse source = .error error) (hposition : error.position? = some position) :
    (Cursor.start source.toList).Ahead position := by
  obtain ⟨word, c, hreads, hfault⟩ | ⟨root, before, c, -, hreads, -, herror⟩ :=
    parse_eq_error_cases h
  · exact (Cursor.Fault.of_reads hreads hfault).2 position hposition
  · obtain ⟨as, word, d, -, hreadsWord, hread, -, -⟩ := readAccessors_eq_error_cases herror
    obtain ⟨ch, back, -, -, -, rfl⟩ | hfault := readAccessor?_eq_error_cases hread
    · obtain rfl := Option.some.inj hposition
      exact .of_reads (hreads.trans hreadsWord) d.ahead_offset
    · exact (Cursor.Fault.of_reads (hreads.trans hreadsWord) hfault).2 position hposition

end Remap.Expression
