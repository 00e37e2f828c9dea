import Remap.Outcome
import Remap.Text.Cursor
import Remap.Uri.Grammar

set_option relaxedAutoImplicit false
set_option autoImplicit false

/-!
# Reading URI templates

A template text is read from left to right, one item after the other until it ends. What is read
lies between the place where reading started and the place where it stopped, and is a text of what
it is read as. The items are made into parts at the end.

## Main definitions

* `Remap.Uri.SyntaxError` — why a text is refused, with its message.
* `Remap.Uri.readItem?` — one item.
* `Remap.Uri.Part.ofItems` — the parts that a sequence of items makes.
* `Remap.Uri.parse` — the template of a text.

## Main results

* `Remap.Uri.readOperator_cases`, `Remap.Uri.readName_cases`, `Remap.Uri.readFallback_cases`,
  `Remap.Uri.readClosing_cases`, `Remap.Uri.readItem?_cases` — everything that the readers can do.
* `Remap.Uri.spells_of_readItem?` — what is read as an item is a text of it, and so at least one
  character, so that reading items comes to an end.
* `Remap.Uri.readItems_eq` — how reading items goes on.
-/

namespace Remap.Uri

open Remap.Text (Cursor isBlank)

/-- Why a text is no URI template. Positions count bytes of UTF-8. -/
inductive SyntaxError where
  | unexpectedClosingBrace (position : Nat)
  | invalidNameCharacter (found : Char) (position : Nat)
  | emptyName (position : Nat)
  | expectedClosingBrace (found : Char) (position : Nat)
  | missingClosingBrace
  deriving DecidableEq, Repr

/-- The text of a syntax error. -/
def SyntaxError.message : SyntaxError → String
  | .unexpectedClosingBrace position => s!"Unexpected closing brace at position {position}"
  | .invalidNameCharacter found position =>
    s!"Invalid character '{found}' in variable name at position {position}"
  | .emptyName position => s!"Empty variable name at position {position}"
  | .expectedClosingBrace found position =>
    s!"Expected '\x7d' but found '{found}' at position {position}"
  | .missingClosingBrace => "Expected '\x7d' but found end of input"

/-- The position that a syntax error names, if it names one. -/
def SyntaxError.position? : SyntaxError → Option Nat
  | .unexpectedClosingBrace position => some position
  | .invalidNameCharacter _ position => some position
  | .emptyName position => some position
  | .expectedClosingBrace _ position => some position
  | .missingClosingBrace => none

/-! ## Variables -/

/-- The characters that end a variable name. -/
def endsName (c : Char) : Bool :=
  c = '=' || c = '}' || isBlank c

/-- The operator at a place: a plus or a slash, or no sign at all. -/
def readOperator (c : Cursor) : Operator × Cursor :=
  match c.rest with
  | [] => (.simple, c)
  | first :: rest =>
    if first = '+' then (.reserved, c.after first rest)
    else if first = '/' then (.segment, c.after first rest)
    else (.simple, c)

/-- The variable name that the characters form, unless there are none. -/
def named (name : List Char) (next : Cursor) : Except SyntaxError (String × Cursor) :=
  if name = [] then .error (.emptyName next.offset) else .ok (String.ofList name, next)

/-- The variable name at a place. It goes up to an equals sign, a closing brace or a blank. -/
def readName (c : Cursor) : Except SyntaxError (String × Cursor) :=
  let next := (c.span isNameChar).2
  match next.rest with
  | [] => named (c.span isNameChar).1 next
  | first :: _ =>
    if endsName first then named (c.span isNameChar).1 next
    else .error (.invalidNameCharacter first next.offset)

/-- The default value at a place, if an equals sign announces one: all characters before the closing
brace, without the blanks around them. -/
def readFallback (c : Cursor) : Option String × Cursor :=
  match c.rest with
  | [] => (none, c)
  | first :: rest =>
    if first = '=' then
      let (text, next) := (c.after first rest).span (· ≠ '}')
      (some (String.ofList (Text.trim text)), next)
    else (none, c)

/-- The closing brace. -/
def readClosing (c : Cursor) : Except SyntaxError Cursor :=
  match c.rest with
  | [] => .error .missingClosingBrace
  | first :: rest =>
    if first = '}' then .ok (c.after first rest)
    else .error (.expectedClosingBrace first c.offset)

/-- A variable after its opening brace, up to the closing one. -/
def readVariable (c : Cursor) : Except SyntaxError (Variable × Cursor) :=
  let (operator, afterOperator) := readOperator c.skipBlanks
  match readName afterOperator with
  | .error error => .error error
  | .ok (name, afterName) =>
    let (fallback, afterFallback) := readFallback afterName.skipBlanks
    (readClosing afterFallback).map fun next => (⟨name, operator, fallback⟩, next)

/-! ## Items -/

/-- The item at a place, or `none` at the end of the text. Two opening braces are always a brace and
never the start of a variable. -/
def readItem? (c : Cursor) : Except SyntaxError (Option (Item × Cursor)) :=
  match c.rest with
  | [] => .ok none
  | '{' :: '{' :: rest => .ok (some (.char '{', ⟨c.offset + 2, rest⟩))
  | '}' :: '}' :: rest => .ok (some (.char '}', ⟨c.offset + 2, rest⟩))
  | first :: rest =>
    if first = '{' then
      (readVariable (c.after first rest)).map fun (value, next) => some (.variable value, next)
    else if first = '}' then .error (.unexpectedClosingBrace c.offset)
    else .ok (some (.char first, c.after first rest))

/-! ## What the readers do in each case -/

/-- An operator is a plus or a slash, or there is none. -/
theorem readOperator_cases (c : Cursor) :
    (∃ rest, c.rest = '+' :: rest ∧ readOperator c = (.reserved, c.after '+' rest)) ∨
      (∃ rest, c.rest = '/' :: rest ∧ readOperator c = (.segment, c.after '/' rest)) ∨
      (∀ ch ∈ c.rest.head?, ch ≠ '+' ∧ ch ≠ '/') ∧ readOperator c = (.simple, c) := by
  cases hrest : c.rest with
  | nil => right; right; simp [readOperator, hrest]
  | cons first rest =>
    by_cases hplus : first = '+'
    · left
      subst hplus
      exact ⟨rest, rfl, by simp only [readOperator, hrest, if_true]⟩
    · by_cases hslash : first = '/'
      · right; left
        subst hslash
        exact ⟨rest, rfl, by simp only [readOperator, hrest, if_neg hplus, if_true]⟩
      · right; right
        simp [readOperator, hrest, hplus, hslash]

/-- A name is formed of all its characters, of which there is at least one. -/
theorem named_eq_ok_iff {name : List Char} {next d : Cursor} {text : String} :
    named name next = .ok (text, d) ↔ name ≠ [] ∧ text.toList = name ∧ next = d := by
  have htext : String.ofList name = text ↔ text.toList = name := by
    rw [← String.toList_inj, String.toList_ofList, eq_comm]
  by_cases hname : name = []
  · simp [named, hname]
  · simp [named, hname, htext]

/-- Only where there is no character is no name formed. -/
theorem named_eq_error_iff {name : List Char} {next : Cursor} {error : SyntaxError} :
    named name next = .error error ↔ name = [] ∧ error = .emptyName next.offset := by
  by_cases hname : name = []
  · simp [named, hname, eq_comm]
  · simp [named, hname]

/-- A name ends properly, or another character breaks it off. -/
theorem readName_cases (c : Cursor) :
    ((∀ ch ∈ (c.span isNameChar).2.rest.head?, endsName ch = true) ∧
        readName c = named (c.span isNameChar).1 (c.span isNameChar).2) ∨
      ∃ found rest, (c.span isNameChar).2.rest = found :: rest ∧ endsName found = false ∧
        readName c = .error (.invalidNameCharacter found (c.span isNameChar).2.offset) := by
  cases hrest : (c.span isNameChar).2.rest with
  | nil => left; simp [readName, hrest]
  | cons found rest =>
    cases hends : endsName found with
    | true => left; simp [readName, hrest, hends]
    | false => right; exact ⟨found, rest, rfl, hends, by simp [readName, hrest, hends]⟩

/-- A default value is read behind an equals sign, and only there. -/
theorem readFallback_cases (c : Cursor) :
    (∃ rest, c.rest = '=' :: rest ∧ readFallback c =
        (some (String.ofList (Text.trim ((c.after '=' rest).span (· ≠ '}')).1)),
          ((c.after '=' rest).span (· ≠ '}')).2)) ∨
      c.rest.head? ≠ some '=' ∧ readFallback c = (none, c) := by
  cases hrest : c.rest with
  | nil => right; simp [readFallback, hrest]
  | cons first rest =>
    by_cases hequals : first = '='
    · left
      subst hequals
      exact ⟨rest, rfl, by simp only [readFallback, hrest, if_true]⟩
    · right
      simp [readFallback, hrest, hequals]

/-- The closing brace is read, something else is found in its place, or nothing. -/
theorem readClosing_cases (c : Cursor) :
    (c.rest = [] ∧ readClosing c = .error .missingClosingBrace) ∨
      ∃ first rest, c.rest = first :: rest ∧
        (first = '}' ∧ readClosing c = .ok (c.after first rest) ∨
          first ≠ '}' ∧ readClosing c = .error (.expectedClosingBrace first c.offset)) := by
  cases hrest : c.rest with
  | nil =>
    left
    exact ⟨rfl, by simp only [readClosing, hrest]⟩
  | cons first rest =>
    right
    refine ⟨first, rest, rfl, ?_⟩
    by_cases hclosing : first = '}'
    · left
      exact ⟨hclosing, by simp only [readClosing, hrest, if_pos hclosing]⟩
    · right
      exact ⟨hclosing, by simp only [readClosing, hrest, if_neg hclosing]⟩

/-- A variable is read in four parts, of which the name and the closing brace can fail. -/
theorem readVariable_eq_ok_iff {c d : Cursor} {v : Variable} :
    readVariable c = .ok (v, d) ↔ ∃ name next,
      readName (readOperator c.skipBlanks).2 = .ok (name, next) ∧
        readClosing (readFallback next.skipBlanks).2 = .ok d ∧
        v = ⟨name, (readOperator c.skipBlanks).1, (readFallback next.skipBlanks).1⟩ := by
  simp only [readVariable]
  cases readName (readOperator c.skipBlanks).2 with
  | error error => simp
  | ok result =>
    obtain ⟨name, next⟩ := result
    simp only [map_eq_ok_iff, Except.ok.injEq, Prod.mk.injEq]
    constructor
    · rintro ⟨next', hclose, rfl, rfl⟩
      exact ⟨name, next, ⟨rfl, rfl⟩, hclose, rfl⟩
    · rintro ⟨_, _, ⟨rfl, rfl⟩, hclose, rfl⟩
      exact ⟨d, hclose, rfl, rfl⟩

/-- The first of its parts that fails decides. -/
theorem readVariable_eq_error_iff {c : Cursor} {error : SyntaxError} :
    readVariable c = .error error ↔
      readName (readOperator c.skipBlanks).2 = .error error ∨ ∃ name next,
        readName (readOperator c.skipBlanks).2 = .ok (name, next) ∧
          readClosing (readFallback next.skipBlanks).2 = .error error := by
  simp only [readVariable]
  cases readName (readOperator c.skipBlanks).2 with
  | error error => simp
  | ok result =>
    obtain ⟨name, next⟩ := result
    simp only [map_eq_error_iff, reduceCtorEq, false_or, Except.ok.injEq, Prod.mk.injEq]
    constructor
    · exact fun hclose => ⟨name, next, ⟨rfl, rfl⟩, hclose⟩
    · rintro ⟨_, _, ⟨rfl, rfl⟩, hclose⟩
      exact hclose

/-- What a character begins that is no doubled brace. -/
theorem readItem?_of_single {c : Cursor} {first : Char} {rest : List Char}
    (hrest : c.rest = first :: rest)
    (hsingle : first = '{' ∨ first = '}' → rest.head? ≠ some first) :
    readItem? c =
      if first = '{' then
        (readVariable (c.after first rest)).map fun (value, next) => some (.variable value, next)
      else if first = '}' then .error (.unexpectedClosingBrace c.offset)
      else .ok (some (.char first, c.after first rest)) := by
  have hopening : ∀ others, first = '{' → rest ≠ '{' :: others := by
    rintro others rfl rfl
    exact hsingle (.inl rfl) rfl
  have hclosing : ∀ others, first = '}' → rest ≠ '}' :: others := by
    rintro others rfl rfl
    exact hsingle (.inr rfl) rfl
  simp only [readItem?, hrest]

/-- An item is a doubled brace, a variable behind an opening brace or any other character.

**Proof sketch.** By the first character, and first of all by whether it is a brace that a second
one of its kind follows. -/
theorem readItem?_cases (c : Cursor) :
    (c.rest = [] ∧ readItem? c = .ok none) ∨
      (∃ brace rest, (brace = '{' ∨ brace = '}') ∧ c.rest = brace :: brace :: rest ∧
        readItem? c = .ok (some (.char brace, ⟨c.offset + 2, rest⟩))) ∨
      (∃ rest, c.rest = '{' :: rest ∧ rest.head? ≠ some '{' ∧
        readItem? c = (readVariable (c.after '{' rest)).map
          fun (value, next) => some (.variable value, next)) ∨
      (∃ rest, c.rest = '}' :: rest ∧ rest.head? ≠ some '}' ∧
        readItem? c = .error (.unexpectedClosingBrace c.offset)) ∨
      ∃ first rest, c.rest = first :: rest ∧ first ≠ '{' ∧ first ≠ '}' ∧
        readItem? c = .ok (some (.char first, c.after first rest)) := by
  cases hrest : c.rest with
  | nil =>
    left
    exact ⟨rfl, by simp only [readItem?, hrest]⟩
  | cons first rest =>
    right
    by_cases hdoubled : (first = '{' ∨ first = '}') ∧ rest.head? = some first
    · left
      obtain ⟨hbrace, hhead⟩ := hdoubled
      obtain ⟨others, rfl⟩ := List.head?_eq_some_iff.1 hhead
      refine ⟨first, others, hbrace, rfl, ?_⟩
      rcases hbrace with rfl | rfl <;> simp only [readItem?, hrest]
    · right
      have hread := readItem?_of_single hrest fun hbrace hhead => hdoubled ⟨hbrace, hhead⟩
      by_cases hopening : first = '{'
      · left
        subst hopening
        exact ⟨rest, rfl, fun hhead => hdoubled ⟨.inl rfl, hhead⟩, hread⟩
      · right
        rw [if_neg hopening] at hread
        by_cases hclosing : first = '}'
        · left
          subst hclosing
          exact ⟨rest, rfl, fun hhead => hdoubled ⟨.inr rfl, hhead⟩, hread⟩
        · right
          rw [if_neg hclosing] at hread
          exact ⟨first, rest, rfl, hopening, hclosing, hread⟩

/-! ## What is read is a text of it -/

/-- An operator is read by its sign. -/
theorem reads_readOperator (c : Cursor) :
    c.Reads (readOperator c).1.sign (readOperator c).2 := by
  rcases readOperator_cases c with ⟨rest, hrest, hread⟩ | ⟨rest, hrest, hread⟩ | ⟨-, hread⟩
  · rw [hread]
    exact Cursor.reads_after hrest
  · rw [hread]
    exact Cursor.reads_after hrest
  · rw [hread]
    exact Cursor.Reads.refl c

/-- What is read as a name is all of it, and one or more characters of a name. -/
theorem spells_of_readName {c d : Cursor} {name : String} (h : readName c = .ok (name, d)) :
    name.toList ≠ [] ∧ (∀ ch ∈ name.toList, isNameChar ch = true) ∧ c.Reads name.toList d := by
  obtain ⟨hword, hreads, -⟩ := Cursor.span_eq_iff.1 (rfl : c.span isNameChar = (_, _))
  rcases readName_cases c with ⟨-, hread⟩ | ⟨found, rest, -, -, hread⟩
  · rw [hread] at h
    obtain ⟨hne, hname, rfl⟩ := named_eq_ok_iff.1 h
    rw [hname]
    exact ⟨hne, hword, hreads⟩
  · simp [hread] at h

/-- What is read as a default value announces it. -/
theorem spells_readFallback (c : Cursor) :
    ∃ word, FallbackSpells (readFallback c).1 word ∧ c.Reads word (readFallback c).2 := by
  rcases readFallback_cases c with ⟨rest, hrest, hread⟩ | ⟨-, hread⟩
  · rw [hread]
    generalize hspan : (c.after '=' rest).span (· ≠ '}') = result
    obtain ⟨text, next⟩ := result
    obtain ⟨hword, hreads, -⟩ := Cursor.span_eq_iff.1 hspan
    obtain ⟨htrimmed, before, after, hbefore, hafter, htext⟩ :=
      Text.trim_eq_iff.1 (rfl : Text.trim text = _)
    refine ⟨'=' :: (before ++ (Text.trim text ++ after)), .some hbefore htrimmed ?_ hafter,
      Cursor.reads_cons_iff.2 ⟨rest, hrest, ?_⟩⟩
    · intro hmem
      have hclosing := hword '}' (by rw [htext]; simp [hmem])
      simp at hclosing
    · rwa [← List.append_assoc, ← htext]
  · rw [hread]
    exact ⟨[], .none, Cursor.Reads.refl c⟩

/-- The closing brace is a word of one character. -/
theorem readClosing_eq_ok_iff {c d : Cursor} : readClosing c = .ok d ↔ c.Reads ['}'] d := by
  rw [Cursor.reads_cons_iff]
  rcases readClosing_cases c with ⟨hrest, hread⟩ | ⟨first, rest, hrest,
    ⟨rfl, hread⟩ | ⟨hclosing, hread⟩⟩
  · simp [hrest, hread]
  · simp [hrest, hread]
  · simp [hrest, hread, hclosing]

/-- What is read behind an opening brace is the rest of a text of the variable. -/
theorem spells_of_readVariable {c d : Cursor} {v : Variable}
    (h : readVariable c = .ok (v, d)) : ∃ word, v.Spells ('{' :: word) ∧ c.Reads word d := by
  obtain ⟨name, next, hname, hclose, rfl⟩ := readVariable_eq_ok_iff.1 h
  obtain ⟨⟨before, hbefore, hreadsBefore⟩, -⟩ :=
    Cursor.skipBlanks_eq_iff.1 (rfl : c.skipBlanks = _)
  obtain ⟨hne, hchars, hreadsName⟩ := spells_of_readName hname
  obtain ⟨⟨after, hafter, hreadsAfter⟩, -⟩ :=
    Cursor.skipBlanks_eq_iff.1 (rfl : next.skipBlanks = _)
  obtain ⟨announced, hannounced, hreadsAnnounced⟩ := spells_readFallback next.skipBlanks
  have hspells := Variable.Spells.mk hbefore (readOperator c.skipBlanks).1 hne hchars hafter
    hannounced
  rw [String.ofList_toList] at hspells
  exact ⟨_, hspells, hreadsBefore.trans ((reads_readOperator c.skipBlanks).trans
    (hreadsName.trans (hreadsAfter.trans (hreadsAnnounced.trans
      (readClosing_eq_ok_iff.1 hclose)))))⟩

/-- **What is read as an item is a text of it.**

**Proof sketch.** By what the reader can do (`readItem?_cases`): each way in which it returns an
item is a constructor of the grammar. -/
theorem spells_of_readItem? {c d : Cursor} {item : Item}
    (h : readItem? c = .ok (some (item, d))) : ∃ word, item.Spells word ∧ c.Reads word d := by
  rcases readItem?_cases c with ⟨-, hread⟩ | ⟨brace, rest, hbrace, hrest, hread⟩ |
    ⟨rest, hrest, -, hread⟩ | ⟨rest, -, -, hread⟩ | ⟨first, rest, hrest, hopening, hclosing, hread⟩
  · simp [hread] at h
  · rw [hread] at h
    obtain ⟨rfl, rfl⟩ := Prod.mk.inj (Option.some.inj (Except.ok.inj h))
    rcases hbrace with rfl | rfl
    · exact ⟨_, .openingBrace, hrest, rfl⟩
    · exact ⟨_, .closingBrace, hrest, rfl⟩
  · rw [hread] at h
    obtain ⟨⟨v, next⟩, hvariable, heq⟩ := map_eq_ok_iff.1 h
    obtain ⟨rfl, rfl⟩ := Prod.mk.inj (Option.some.inj heq)
    obtain ⟨word, hspells, hreads⟩ := spells_of_readVariable hvariable
    exact ⟨_, .ofVariable hspells, Cursor.reads_cons_iff.2 ⟨rest, hrest, hreads⟩⟩
  · simp [hread] at h
  · rw [hread] at h
    obtain ⟨rfl, rfl⟩ := Prod.mk.inj (Option.some.inj (Except.ok.inj h))
    exact ⟨_, .char hopening hclosing, Cursor.reads_after hrest⟩

/-! ## The whole text -/

/-- The items from a place to the end of the text. -/
def readItems (c : Cursor) : Except SyntaxError (List Item) :=
  match _h : readItem? c with
  | .error error => .error error
  | .ok none => .ok []
  | .ok (some (item, next)) => (readItems next).map (item :: ·)
termination_by c.rest.length
decreasing_by
  obtain ⟨word, hspells, hword⟩ := spells_of_readItem? _h
  have h1 := hword.length_rest
  have h2 : 0 < word.length := List.length_pos_iff.2 hspells.ne_nil
  omega

/-- Reading items reads the first one and goes on behind it. -/
theorem readItems_eq (c : Cursor) :
    readItems c =
      match readItem? c with
      | .error error => .error error
      | .ok none => .ok []
      | .ok (some (item, next)) => (readItems next).map (item :: ·) := by
  rw [readItems]
  rcases readItem? c with error | _ | ⟨item, next⟩ <;> rfl

/-- The parts with a literal of the characters before them, unless there are none. -/
def Part.withLiteral (text : List Char) (parts : List Part) : List Part :=
  if text = [] then parts else .literal (String.ofList text) :: parts

/-- The characters that a sequence of items starts with, and the parts that its other items make. -/
def Part.splitItems : List Item → List Char × List Part
  | [] => ([], [])
  | .char c :: rest =>
    let (text, parts) := splitItems rest
    (c :: text, parts)
  | .variable value :: rest =>
    let (text, parts) := splitItems rest
    ([], .variable value :: withLiteral text parts)

/-- The parts that a sequence of items makes: every longest run of characters is one literal. -/
def Part.ofItems (items : List Item) : List Part :=
  let (text, parts) := Part.splitItems items
  Part.withLiteral text parts

/-- The template of a text. -/
def parse (text : String) : Except SyntaxError Template :=
  (readItems (Cursor.start text.toList)).map fun items => ⟨Part.ofItems items⟩

end Remap.Uri
