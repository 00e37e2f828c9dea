import Remap.Expression.Grammar
import Remap.Outcome
import Remap.Text.Cursor

set_option relaxedAutoImplicit false
set_option autoImplicit false

/-!
# Reading path expressions

A source is read from left to right: the root, and then one accessor after the other until the text
ends. What is read lies between the place where reading started and the place where it stopped, and
is a source of what it is read as.

## Main definitions

* `Remap.Expression.SyntaxError` — why a source is refused, with its message.
* `Remap.Expression.readAccessor?` — one accessor.
* `Remap.Expression.parse` — the expression of a source.

## Main results

* `Remap.Expression.readRoot_cases`, `Remap.Expression.readContent_cases`,
  `Remap.Expression.readClosing_cases`, `Remap.Expression.readAccessor?_cases` — everything that the
  readers can do.
* `Remap.Expression.spells_of_readAccessor?` — what is read as an accessor is a source of it, and so
  at least one character, so that reading accessors comes to an end.
* `Remap.Expression.readAccessors_eq` — how reading accessors goes on.
-/

namespace Remap.Expression

open Remap.Text (Cursor)

/-- Why a source is no expression. Positions count bytes of UTF-8. -/
inductive SyntaxError where
  | unexpectedCharacter (found : Char) (position : Nat)
  | unexpectedInBrackets (found : Char) (position : Nat)
  | endInBrackets
  | expectedIdentifier (position : Nat)
  | unknownRoot (name : String) (position : Nat)
  | indexTooLarge (digits : String)
  | unterminatedString
  | unexpectedEnd (position : Nat)
  | expectedBracket (found : Char) (position : Nat)
  | missingBracket
  deriving DecidableEq, Repr

/-- The text of a syntax error. -/
def SyntaxError.message : SyntaxError → String
  | .unexpectedCharacter found position =>
    s!"Unexpected character '{found}' at position {position}"
  | .unexpectedInBrackets found position =>
    s!"Unexpected character '{found}' in brackets at position {position}"
  | .endInBrackets => "Unexpected end of input in brackets"
  | .expectedIdentifier position => s!"Expected identifier at position {position}"
  | .unknownRoot name position => s!"Unknown root symbol '{name}' at position {position}"
  | .indexTooLarge digits =>
    s!"Invalid index '{digits}': number too large to fit in target type"
  | .unterminatedString => "Unterminated string literal"
  | .unexpectedEnd position => s!"Unexpected end of input at position {position}"
  | .expectedBracket found position => s!"Expected ']' but found '{found}' at position {position}"
  | .missingBracket => "Expected ']' but found end of input"

/-- The position that a syntax error names, if it names one. -/
def SyntaxError.position? : SyntaxError → Option Nat
  | .unexpectedCharacter _ position => some position
  | .unexpectedInBrackets _ position => some position
  | .expectedIdentifier position => some position
  | .unknownRoot _ position => some position
  | .unexpectedEnd position => some position
  | .expectedBracket _ position => some position
  | .endInBrackets => none
  | .indexTooLarge _ => none
  | .unterminatedString => none
  | .missingBracket => none

/-- The longest identifier at a place. -/
def readIdentifier (c : Cursor) : Except SyntaxError (String × Cursor) :=
  match c.rest with
  | [] => .error (.expectedIdentifier c.offset)
  | first :: _ =>
    if isIdentifierStart first then
      let (word, next) := c.span isIdentifierChar
      .ok (String.ofList word, next)
    else .error (.expectedIdentifier c.offset)

/-- The root symbol at a place. -/
def readRoot (c : Cursor) : Except SyntaxError (Root × Cursor) :=
  match readIdentifier c with
  | .error error => .error error
  | .ok (name, next) =>
    if name = "rm" then .ok (.rootModel, next)
    else if name = "m" then .ok (.model, next)
    else .error (.unknownRoot name c.offset)

/-- The characters of a quoted name after its opening quote. -/
def readQuoted (quote : Char) (offset : Nat) :
    List Char → Except SyntaxError (List Char × Cursor)
  | [] => .error .unterminatedString
  | '\\' :: [] => .error (.unexpectedEnd (offset + 1))
  | '\\' :: escaped :: rest =>
    (readQuoted quote (offset + 1 + escaped.utf8Size) rest).map fun (name, next) =>
      (escaped :: name, next)
  | c :: rest =>
    if c = quote then .ok ([], ⟨offset + c.utf8Size, rest⟩)
    else
      (readQuoted quote (offset + c.utf8Size) rest).map fun (name, next) => (c :: name, next)

/-- What stands between brackets: a quoted name or an index. -/
def readContent (c : Cursor) : Except SyntaxError (Accessor × Cursor) :=
  match c.rest with
  | [] => .error .endInBrackets
  | first :: rest =>
    if first = '\x27' ∨ first = '\"' then
      (readQuoted first (c.offset + first.utf8Size) rest).map fun (name, next) =>
        (.member (String.ofList name), next)
    else if first.isDigit then
      let (digits, next) := c.span Char.isDigit
      match Text.ofDigits? digits with
      | some position => .ok (.index position, next)
      | none => .error (.indexTooLarge (String.ofList digits))
    else .error (.unexpectedInBrackets first c.offset)

/-- The closing bracket. -/
def readClosing (c : Cursor) : Except SyntaxError Cursor :=
  match c.rest with
  | [] => .error .missingBracket
  | first :: rest =>
    if first = ']' then .ok (c.after first rest) else .error (.expectedBracket first c.offset)

/-- What follows an opening bracket, up to the closing one. -/
def readBracketed (c : Cursor) : Except SyntaxError (Accessor × Cursor) :=
  match readContent c.skipBlanks with
  | .error error => .error error
  | .ok (accessor, next) => (readClosing next.skipBlanks).map fun next => (accessor, next)

/-- The accessor at a place, or `none` at the end of the text. -/
def readAccessor? (c : Cursor) : Except SyntaxError (Option (Accessor × Cursor)) :=
  match c.rest with
  | [] => .ok none
  | first :: rest =>
    if first = '.' then
      (readIdentifier (c.after first rest)).map fun (name, next) => some (.member name, next)
    else if first = '[' then
      (readBracketed (c.after first rest)).map some
    else .error (.unexpectedCharacter first c.offset)

/-! ## What the readers do in each case -/

/-- An identifier is read where one starts, up to the first character that cannot belong to it. -/
theorem readIdentifier_of_pos {c : Cursor} {first : Char} {rest : List Char}
    (hrest : c.rest = first :: rest) (hfirst : isIdentifierStart first = true) :
    readIdentifier c =
      .ok (String.ofList (c.span isIdentifierChar).1, (c.span isIdentifierChar).2) := by
  simp only [readIdentifier, hrest, if_pos hfirst]

/-- Where no identifier starts, none is read. -/
theorem readIdentifier_of_head? {c : Cursor}
    (hstop : ∀ ch ∈ c.rest.head?, isIdentifierStart ch = false) :
    readIdentifier c = .error (.expectedIdentifier c.offset) := by
  cases hrest : c.rest with
  | nil => simp only [readIdentifier, hrest]
  | cons first rest =>
    have hfirst : ¬isIdentifierStart first = true := by
      simp [hstop first (by rw [hrest]; rfl)]
    simp only [readIdentifier, hrest, if_neg hfirst]

/-- A root is one of two identifiers. -/
theorem readRoot_cases (c : Cursor) :
    (∃ error, readIdentifier c = .error error ∧ readRoot c = .error error) ∨
      (∃ root next, readIdentifier c = .ok (String.ofList root.source, next) ∧
        readRoot c = .ok (root, next)) ∨
      ∃ name next, readIdentifier c = .ok (name, next) ∧ name ≠ "rm" ∧ name ≠ "m" ∧
        readRoot c = .error (.unknownRoot name c.offset) := by
  cases hread : readIdentifier c with
  | error error =>
    left
    exact ⟨error, rfl, by simp only [readRoot, hread]⟩
  | ok result =>
    obtain ⟨name, next⟩ := result
    right
    by_cases hrm : name = "rm"
    · left
      exact ⟨.rootModel, next, by rw [hrm]; rfl, by simp only [readRoot, hread, if_pos hrm]⟩
    · by_cases hm : name = "m"
      · left
        exact ⟨.model, next, by rw [hm]; rfl,
          by simp only [readRoot, hread, if_neg hrm, if_pos hm]⟩
      · right
        exact ⟨name, next, rfl, hrm, hm, by simp only [readRoot, hread, if_neg hrm, if_neg hm]⟩

/-- The content of brackets is a quoted name or an index, which the first character decides. -/
theorem readContent_cases (c : Cursor) :
    (c.rest = [] ∧ readContent c = .error .endInBrackets) ∨
      ∃ first rest, c.rest = first :: rest ∧
        ((first = '\x27' ∨ first = '\"') ∧
            readContent c = (readQuoted first (c.offset + first.utf8Size) rest).map
              (fun (name, next) => (.member (String.ofList name), next)) ∨
          ¬(first = '\x27' ∨ first = '\"') ∧ first.isDigit = true ∧
            readContent c = (match Text.ofDigits? (c.span Char.isDigit).1 with
              | some position => .ok (.index position, (c.span Char.isDigit).2)
              | none => .error (.indexTooLarge (String.ofList (c.span Char.isDigit).1))) ∨
          ¬(first = '\x27' ∨ first = '\"') ∧ first.isDigit = false ∧
            readContent c = .error (.unexpectedInBrackets first c.offset)) := by
  cases hrest : c.rest with
  | nil =>
    left
    exact ⟨rfl, by simp only [readContent, hrest]⟩
  | cons first rest =>
    right
    refine ⟨first, rest, rfl, ?_⟩
    by_cases hquote : first = '\x27' ∨ first = '\"'
    · left
      exact ⟨hquote, by simp only [readContent, hrest, if_pos hquote]⟩
    · right
      by_cases hdigit : first.isDigit = true
      · left
        exact ⟨hquote, hdigit, by simp only [readContent, hrest, if_neg hquote, if_pos hdigit]⟩
      · right
        exact ⟨hquote, by simpa using hdigit,
          by simp only [readContent, hrest, if_neg hquote, if_neg hdigit]⟩

/-- The closing bracket is read, something else is found in its place, or nothing. -/
theorem readClosing_cases (c : Cursor) :
    (c.rest = [] ∧ readClosing c = .error .missingBracket) ∨
      ∃ first rest, c.rest = first :: rest ∧
        (first = ']' ∧ readClosing c = .ok (c.after first rest) ∨
          first ≠ ']' ∧ readClosing c = .error (.expectedBracket first c.offset)) := by
  cases hrest : c.rest with
  | nil =>
    left
    exact ⟨rfl, by simp only [readClosing, hrest]⟩
  | cons first rest =>
    right
    refine ⟨first, rest, rfl, ?_⟩
    by_cases hclosing : first = ']'
    · left
      exact ⟨hclosing, by simp only [readClosing, hrest, if_pos hclosing]⟩
    · right
      exact ⟨hclosing, by simp only [readClosing, hrest, if_neg hclosing]⟩

/-- What follows an opening bracket is read in two parts. -/
theorem readBracketed_eq_ok_iff {c d : Cursor} {accessor : Accessor} :
    readBracketed c = .ok (accessor, d) ↔ ∃ next,
      readContent c.skipBlanks = .ok (accessor, next) ∧ readClosing next.skipBlanks = .ok d := by
  rw [readBracketed]
  cases readContent c.skipBlanks with
  | error error => simp
  | ok result =>
    obtain ⟨inner, next⟩ := result
    simp only [map_eq_ok_iff, Except.ok.injEq, Prod.mk.injEq]
    constructor
    · rintro ⟨next', hclose, rfl, rfl⟩
      exact ⟨next, ⟨rfl, rfl⟩, hclose⟩
    · rintro ⟨_, ⟨rfl, rfl⟩, hclose⟩
      exact ⟨d, hclose, rfl, rfl⟩

/-- The first of the two parts that fails decides. -/
theorem readBracketed_eq_error_iff {c : Cursor} {error : SyntaxError} :
    readBracketed c = .error error ↔ readContent c.skipBlanks = .error error ∨
      ∃ accessor next, readContent c.skipBlanks = .ok (accessor, next) ∧
        readClosing next.skipBlanks = .error error := by
  rw [readBracketed]
  cases readContent c.skipBlanks with
  | error error => simp
  | ok result =>
    obtain ⟨inner, next⟩ := result
    simp only [map_eq_error_iff, reduceCtorEq, false_or, Except.ok.injEq, Prod.mk.injEq]
    constructor
    · exact fun hclose => ⟨inner, next, ⟨rfl, rfl⟩, hclose⟩
    · rintro ⟨_, _, ⟨rfl, rfl⟩, hclose⟩
      exact hclose

/-- An accessor is a name behind a point or something in brackets, which the first character
decides. -/
theorem readAccessor?_cases (c : Cursor) :
    (c.rest = [] ∧ readAccessor? c = .ok none) ∨
      ∃ first rest, c.rest = first :: rest ∧
        (first = '.' ∧
            readAccessor? c = (readIdentifier (c.after first rest)).map
              (fun (name, next) => some (.member name, next)) ∨
          first = '[' ∧ readAccessor? c = (readBracketed (c.after first rest)).map some ∨
          first ≠ '.' ∧ first ≠ '[' ∧
            readAccessor? c = .error (.unexpectedCharacter first c.offset)) := by
  cases hrest : c.rest with
  | nil =>
    left
    exact ⟨rfl, by simp only [readAccessor?, hrest]⟩
  | cons first rest =>
    right
    refine ⟨first, rest, rfl, ?_⟩
    by_cases hpoint : first = '.'
    · left
      exact ⟨hpoint, by simp only [readAccessor?, hrest, if_pos hpoint]⟩
    · right
      by_cases hbracket : first = '['
      · left
        exact ⟨hbracket, by simp only [readAccessor?, hrest, if_neg hpoint, if_pos hbracket]⟩
      · right
        exact ⟨hpoint, hbracket,
          by simp only [readAccessor?, hrest, if_neg hpoint, if_neg hbracket]⟩

/-! ## What is read is a source -/

/-- An identifier is read up to the first character that cannot belong to it.

**Proof sketch.** Where an identifier starts, the run of its characters is read, and a run is known
by the character behind it (`Cursor.span_eq_iff`). -/
theorem readIdentifier_eq_ok_iff {c d : Cursor} {name : String} :
    readIdentifier c = .ok (name, d) ↔
      isIdentifier name.toList = true ∧ c.Reads name.toList d ∧
        ∀ ch ∈ d.rest.head?, isIdentifierChar ch = false := by
  constructor
  · intro h
    rcases c.head?_cases isIdentifierStart with ⟨first, rest, hrest, hfirst⟩ | hstop
    · rw [readIdentifier_of_pos hrest hfirst] at h
      obtain ⟨rfl, rfl⟩ := Prod.mk.inj (Except.ok.inj h)
      have hchar := isIdentifierChar_of_isIdentifierStart hfirst
      obtain ⟨hword, hreads, hbehind⟩ := Cursor.span_eq_iff.1 (Cursor.span_of_pos hrest hchar)
      rw [String.toList_ofList, Cursor.span_of_pos hrest hchar]
      exact ⟨isIdentifier_cons.2 ⟨hfirst, (List.forall_mem_cons.1 hword).2⟩, hreads, hbehind⟩
    · rw [readIdentifier_of_head? hstop] at h
      simp at h
  · rintro ⟨hname, hreads, hstop⟩
    cases hword : name.toList with
    | nil => simp [hword, isIdentifier] at hname
    | cons first rest =>
      rw [hword, isIdentifier_cons] at hname
      rw [hword] at hreads
      have hall : ∀ ch ∈ first :: rest, isIdentifierChar ch = true :=
        List.forall_mem_cons.2 ⟨isIdentifierChar_of_isIdentifierStart hname.1, hname.2⟩
      have hrest : c.rest = first :: (rest ++ d.rest) := hreads.1
      rw [readIdentifier_of_pos hrest hname.1, Cursor.span_eq_iff.2 ⟨hall, hreads, hstop⟩, ← hword,
        String.ofList_toList]

/-- What is read as a quoted name, up to the closing quote, spells the name.

**Proof sketch.** By the recursion of the reader. A backslash that is read as itself would have
nothing behind it, and then nothing is read. -/
theorem quotes_of_readQuoted {quote : Char} {offset : Nat} {s name : List Char} {d : Cursor}
    (h : readQuoted quote offset s = .ok (name, d)) :
    ∃ body, Quotes quote name body ∧ (Cursor.mk offset s).Reads (body ++ [quote]) d := by
  fun_induction readQuoted quote offset s generalizing name with
  | case1 => simp at h
  | case2 => simp at h
  | case3 offset escaped rest ih =>
    obtain ⟨⟨name', d'⟩, hr, heq⟩ := map_eq_ok_iff.1 h
    obtain ⟨rfl, rfl⟩ := Prod.mk.inj heq
    obtain ⟨body, hbody, hreads⟩ := ih hr
    refine ⟨'\\' :: escaped :: body, .escaped escaped hbody, ?_⟩
    rw [List.cons_append, List.cons_append, Cursor.reads_cons_iff]
    exact ⟨_, rfl, Cursor.reads_cons_iff.2 ⟨_, rfl, hreads⟩⟩
  | case4 offset rest _ _ =>
    obtain ⟨rfl, rfl⟩ := Prod.mk.inj (Except.ok.inj h)
    exact ⟨[], .nil, Cursor.reads_after rfl⟩
  | case5 offset c rest _ hback hquote ih =>
    obtain ⟨⟨name', d'⟩, hr, heq⟩ := map_eq_ok_iff.1 h
    obtain ⟨rfl, rfl⟩ := Prod.mk.inj heq
    obtain ⟨body, hbody, hreads⟩ := ih hr
    refine ⟨c :: body, .plain hquote ?_ hbody, Cursor.reads_cons_iff.2 ⟨rest, rfl, hreads⟩⟩
    -- A backslash is either followed by a character or the last character of the text.
    rintro rfl
    cases rest with
    | nil => simp [readQuoted] at hr
    | cons escaped others => exact hback escaped others rfl rfl

/-- What is read as an index is one or more digits that spell it. -/
theorem spellsContent_of_isDigit {c : Cursor} {first : Char} {rest : List Char}
    (hrest : c.rest = first :: rest) (hdigit : first.isDigit = true) {position : UInt64}
    (hposition : Text.ofDigits? (c.span Char.isDigit).1 = some position) :
    (Accessor.index position).SpellsContent (c.span Char.isDigit).1 := by
  obtain ⟨hword, -, -⟩ := Cursor.span_eq_iff.1 (rfl : c.span Char.isDigit = (_, _))
  have hne : (c.span Char.isDigit).1 ≠ [] := by
    rw [Cursor.span_of_pos hrest hdigit]
    exact List.cons_ne_nil _ _
  obtain ⟨hvalue, rfl⟩ := Text.ofDigits?_eq_some_iff.1 hposition
  exact .digits hne hword hvalue

/-- What is read as the content of brackets spells it. -/
theorem spellsContent_of_readContent {c d : Cursor} {accessor : Accessor}
    (h : readContent c = .ok (accessor, d)) :
    ∃ word, accessor.SpellsContent word ∧ c.Reads word d := by
  rcases readContent_cases c with ⟨-, hread⟩ | ⟨first, rest, hrest,
    ⟨hquote, hread⟩ | ⟨-, hdigit, hread⟩ | ⟨-, -, hread⟩⟩
  · simp [hread] at h
  · rw [hread] at h
    obtain ⟨⟨name, d'⟩, hname, heq⟩ := map_eq_ok_iff.1 h
    obtain ⟨rfl, rfl⟩ := Prod.mk.inj heq
    obtain ⟨body, hbody, hreads⟩ := quotes_of_readQuoted hname
    exact ⟨_, .name hquote hbody, Cursor.reads_cons_iff.2 ⟨rest, hrest, hreads⟩⟩
  · rw [hread] at h
    cases hposition : Text.ofDigits? (c.span Char.isDigit).1 with
    | none => simp [hposition] at h
    | some position =>
      rw [hposition] at h
      obtain ⟨rfl, rfl⟩ := Prod.mk.inj (Except.ok.inj h)
      exact ⟨_, spellsContent_of_isDigit hrest hdigit hposition, c.reads_span Char.isDigit⟩
  · simp [hread] at h

/-- The closing bracket is a word of one character. -/
theorem readClosing_eq_ok_iff {c d : Cursor} : readClosing c = .ok d ↔ c.Reads [']'] d := by
  rw [Cursor.reads_cons_iff]
  rcases readClosing_cases c with ⟨hrest, hread⟩ | ⟨first, rest, hrest,
    ⟨rfl, hread⟩ | ⟨hclosing, hread⟩⟩
  · simp [hrest, hread]
  · simp [hrest, hread]
  · simp [hrest, hread, hclosing]

/-- What is read behind an opening bracket is the content with blanks around it and the closing
bracket. -/
theorem spells_of_readBracketed {c d : Cursor} {accessor : Accessor}
    (h : readBracketed c = .ok (accessor, d)) :
    ∃ word, accessor.Spells ('[' :: word) ∧ c.Reads word d := by
  obtain ⟨next, hcontent, hclose⟩ := readBracketed_eq_ok_iff.1 h
  obtain ⟨⟨before, hbefore, hreadsBefore⟩, -⟩ :=
    Cursor.skipBlanks_eq_iff.1 (rfl : c.skipBlanks = _)
  obtain ⟨content, hcontent, hreadsContent⟩ := spellsContent_of_readContent hcontent
  obtain ⟨⟨after, hafter, hreadsAfter⟩, -⟩ :=
    Cursor.skipBlanks_eq_iff.1 (rfl : next.skipBlanks = _)
  exact ⟨_, .brackets hbefore hcontent hafter,
    hreadsBefore.trans (hreadsContent.trans
      (hreadsAfter.trans (readClosing_eq_ok_iff.1 hclose)))⟩

/-- **What is read as an accessor is a source of it.** -/
theorem spells_of_readAccessor? {c d : Cursor} {accessor : Accessor}
    (h : readAccessor? c = .ok (some (accessor, d))) :
    ∃ word, accessor.Spells word ∧ c.Reads word d := by
  rcases readAccessor?_cases c with ⟨-, hread⟩ | ⟨first, rest, hrest,
    ⟨rfl, hread⟩ | ⟨rfl, hread⟩ | ⟨-, -, hread⟩⟩
  · simp [hread] at h
  · rw [hread] at h
    obtain ⟨⟨name, next⟩, hname, heq⟩ := map_eq_ok_iff.1 h
    obtain ⟨rfl, rfl⟩ := Prod.mk.inj (Option.some.inj heq)
    obtain ⟨hidentifier, hreads, -⟩ := readIdentifier_eq_ok_iff.1 hname
    have hspells := Accessor.Spells.point hidentifier
    rw [String.ofList_toList] at hspells
    exact ⟨_, hspells, Cursor.reads_cons_iff.2 ⟨rest, hrest, hreads⟩⟩
  · rw [hread] at h
    obtain ⟨result, hinner, heq⟩ := map_eq_ok_iff.1 h
    obtain rfl := Option.some.inj heq
    obtain ⟨word, hspells, hreads⟩ := spells_of_readBracketed hinner
    exact ⟨_, hspells, Cursor.reads_cons_iff.2 ⟨rest, hrest, hreads⟩⟩
  · simp [hread] at h

/-! ## The whole source -/

/-- The accessors from a place to the end of the text. -/
def readAccessors (c : Cursor) : Except SyntaxError (List Accessor) :=
  match _h : readAccessor? c.skipBlanks with
  | .error error => .error error
  | .ok none => .ok []
  | .ok (some (accessor, next)) => (readAccessors next).map (accessor :: ·)
termination_by c.rest.length
decreasing_by
  obtain ⟨word, hspells, hword⟩ := spells_of_readAccessor? _h
  have h1 := hword.length_rest
  have h2 := c.reads_skipBlanks.length_rest
  have h3 : 0 < word.length := List.length_pos_iff.2 hspells.ne_nil
  omega

/-- Reading accessors reads the first one and goes on behind it. -/
theorem readAccessors_eq (c : Cursor) :
    readAccessors c =
      match readAccessor? c.skipBlanks with
      | .error error => .error error
      | .ok none => .ok []
      | .ok (some (accessor, next)) => (readAccessors next).map (accessor :: ·) := by
  rw [readAccessors]
  rcases hread : readAccessor? c.skipBlanks with error | _ | ⟨accessor, next⟩ <;> rfl

/-- The expression of a source text. -/
def parse (source : String) : Except SyntaxError Expression :=
  match readRoot (Cursor.start source.toList).skipBlanks with
  | .error error => .error error
  | .ok (root, next) => (readAccessors next).map (Expression.mk root)

end Remap.Expression
