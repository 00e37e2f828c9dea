import Mathlib.Data.Set.Subsingleton
import Remap.Uri.Parser

set_option relaxedAutoImplicit false
set_option autoImplicit false

/-!
# The parser of URI templates accepts its grammar

What the parser reads is a text of what it reads it as; here is the other direction: every text of a
template is read as that template. Signs, names and defaults stop by themselves, since no two of the
classes "blank", "sign", "name", "equals sign" and "brace" share a character. For the same reason no
text of a variable begins with two braces, and one character of lookahead tells it from an escaped
brace. The parts of a template are then characterised by its items: they are the only parts that
merge every longest run of characters.

## Main results

* `Remap.Uri.readItem?_of_spells` — a text of an item is read as that item.
* `Remap.Uri.readItems_eq_ok_iff` — the items that are read are those that the text spells.
* `Remap.Uri.Part.ofItems_eq_iff` — the parts of a sequence of items.
* `Remap.Uri.parse_eq_ok_iff_spells` — the parser reads exactly the texts of a template.
* `Remap.Uri.parse_accepts_template_grammar` — the parser accepts exactly the grammar.
-/

namespace Remap.Uri

open Remap.Text (Cursor Blanks isBlank)

/-! ## Where words stop -/

/-- No blank belongs to a name. -/
theorem isNameChar_eq_false_of_isBlank {c : Char} (h : isBlank c = true) :
    isNameChar c = false := by
  have halphanumeric := Text.isAlphanumeric_eq_false_of_isBlank h
  have hne : ∀ d : Char, isBlank d = false → decide (c = d) = false := by
    rintro d hd
    rw [decide_eq_false_iff_not]
    rintro rfl
    rw [h] at hd
    simp at hd
  simp [isNameChar, halphanumeric, hne '_' (by decide), hne '-' (by decide), hne '.' (by decide)]

/-- A character of a name is not blank. -/
theorem isBlank_eq_false_of_isNameChar {c : Char} (h : isNameChar c = true) :
    isBlank c = false := by
  rw [Bool.eq_false_iff]
  intro hblank
  rw [isNameChar_eq_false_of_isBlank hblank] at h
  simp at h

/-- A name stops at every character that ends names. -/
theorem isNameChar_eq_false_of_endsName {c : Char} (h : endsName c = true) :
    isNameChar c = false := by
  simp only [endsName, Bool.or_eq_true, decide_eq_true_eq] at h
  rcases h with (rfl | rfl) | h
  · decide
  · decide
  · exact isNameChar_eq_false_of_isBlank h

/-- Neither a sign nor an opening brace belongs to a name. -/
theorem ne_of_isNameChar {c : Char} (h : isNameChar c = true) : c ≠ '+' ∧ c ≠ '/' ∧ c ≠ '{' := by
  refine ⟨?_, ?_, ?_⟩ <;> rintro rfl <;> exact absurd h (by decide)

/-! ## Variables -/

/-- An operator is read by its sign where a name follows. -/
theorem readOperator_of_reads {c d : Cursor} {operator : Operator}
    (hreads : c.Reads operator.sign d) (hname : ∀ ch ∈ d.rest.head?, isNameChar ch = true) :
    readOperator c = (operator, d) := by
  cases operator with
  | simple =>
    obtain rfl := Cursor.reads_nil_iff.1 hreads
    rcases readOperator_cases c with ⟨rest, hrest, -⟩ | ⟨rest, hrest, -⟩ | ⟨-, hread⟩
    · exact absurd rfl (ne_of_isNameChar (hname '+' (by rw [hrest]; rfl))).1
    · exact absurd rfl (ne_of_isNameChar (hname '/' (by rw [hrest]; rfl))).2.1
    · exact hread
  | reserved =>
    obtain ⟨rest, hrest, hreads⟩ := Cursor.reads_cons_iff.1 hreads
    obtain rfl := Cursor.reads_nil_iff.1 hreads
    simp only [readOperator, hrest, if_true]
  | segment =>
    obtain ⟨rest, hrest, hreads⟩ := Cursor.reads_cons_iff.1 hreads
    obtain rfl := Cursor.reads_nil_iff.1 hreads
    have hplus : '/' ≠ '+' := by decide
    simp only [readOperator, hrest, if_neg hplus, if_true]

/-- Neither the sign of an operator nor the name behind it starts with a blank. -/
theorem isBlank_eq_false_of_reads_sign {c d : Cursor} {operator : Operator}
    (hreads : c.Reads operator.sign d) (hname : ∀ ch ∈ d.rest.head?, isNameChar ch = true) :
    ∀ ch ∈ c.rest.head?, isBlank ch = false := by
  rw [hreads.1]
  intro ch hch
  cases operator with
  | simple => exact isBlank_eq_false_of_isNameChar (hname ch hch)
  | reserved =>
    obtain rfl := Option.some.inj hch
    decide
  | segment =>
    obtain rfl := Option.some.inj hch
    decide

/-- A name is read up to a character that ends names. -/
theorem readName_of_reads {c d : Cursor} {name : List Char} (hne : name ≠ [])
    (hname : ∀ ch ∈ name, isNameChar ch = true) (hreads : c.Reads name d)
    (hend : ∀ ch ∈ d.rest.head?, endsName ch = true) :
    readName c = .ok (String.ofList name, d) := by
  have hspan : c.span isNameChar = (name, d) :=
    Cursor.span_eq_iff.2
      ⟨hname, hreads, fun ch hch => isNameChar_eq_false_of_endsName (hend ch hch)⟩
  have hcases := readName_cases c
  rw [hspan] at hcases
  rcases hcases with ⟨-, hread⟩ | ⟨found, rest, hrest, hends, -⟩
  · rw [hread]
    exact named_eq_ok_iff.2 ⟨hne, String.toList_ofList, rfl⟩
  · have hproper := hend found (by rw [hrest]; rfl)
    rw [hends] at hproper
    simp at hproper

/-- A default value is read up to the closing brace.

**Proof sketch.** No blank and no character of the default is a closing brace, so that the run up to
the brace is the blanks before the default, the default and the blanks behind it. -/
theorem readFallback_of_spells {fallback : Option String} {word : List Char}
    (h : FallbackSpells fallback word) {c d : Cursor} (hreads : c.Reads word d)
    (hclosing : d.rest.head? = some '}') : readFallback c = (fallback, d) := by
  cases h with
  | none =>
    obtain rfl := Cursor.reads_nil_iff.1 hreads
    rcases readFallback_cases c with ⟨rest, hrest, -⟩ | ⟨-, hread⟩
    · simp [hrest] at hclosing
    · exact hread
  | @some before text after hbefore htrimmed htext hafter =>
    obtain ⟨rest, hrest, hreads⟩ := Cursor.reads_cons_iff.1 hreads
    have hblank : ∀ blanks : List Char, Blanks blanks → '}' ∉ blanks := by
      intro blanks hblanks hmem
      exact absurd (hblanks '}' hmem) (by decide)
    have hspan : (c.after '=' rest).span (· ≠ '}') = (before ++ (text ++ after), d) := by
      refine Cursor.span_eq_iff.2 ⟨?_, hreads, ?_⟩
      · intro ch hch
        rw [decide_eq_true_eq]
        rintro rfl
        simp [htext, hblank before hbefore, hblank after hafter] at hch
      · rw [hclosing]
        simp
    have htrim : Text.trim (before ++ (text ++ after)) = text :=
      Text.trim_eq_iff.2 ⟨htrimmed, before, after, hbefore, hafter, (List.append_assoc ..).symm⟩
    simp only [readFallback, hrest, if_true, hspan, htrim]

/-- Where a default value may stand, an equals sign or the closing brace follows. -/
theorem FallbackSpells.head?_cases {fallback : Option String} {word rest : List Char}
    (h : FallbackSpells fallback word) :
    ∀ ch ∈ (word ++ '}' :: rest).head?, ch = '=' ∨ ch = '}' := by
  cases h <;> simp

/-- A name ends at the first blank behind it or, where there are none, at what announces a default
value or closes the braces. -/
theorem endsName_of_reads_blanks {c d : Cursor} {blanks : List Char} (hblanks : Blanks blanks)
    (hreads : c.Reads blanks d) (hstop : ∀ ch ∈ d.rest.head?, ch = '=' ∨ ch = '}') :
    ∀ ch ∈ c.rest.head?, endsName ch = true := by
  rw [hreads.1]
  intro ch hch
  cases blanks with
  | nil => rcases hstop ch hch with rfl | rfl <;> decide
  | cons blank rest =>
    obtain rfl := Option.some.inj hch
    simp [endsName, hblanks blank List.mem_cons_self]

/-- The text of a variable behind its opening brace is read as the variable.

**Proof sketch.** The readers of the sign, the name and the default are applied one after the other,
each with what follows its word: a name follows the sign, a blank, an equals sign or the closing
brace follows the name, and the closing brace follows the default. -/
theorem readVariable_of_spells {v : Variable} {word : List Char} (h : v.Spells ('{' :: word))
    {c d : Cursor} (hreads : c.Reads word d) : readVariable c = .ok (v, d) := by
  cases h with
  | @mk before name after announced hbefore operator hne hname hafter fallback hfallback =>
    obtain ⟨atSign, hreadsBefore, hreads⟩ := Cursor.reads_append_iff.1 hreads
    obtain ⟨atName, hreadsSign, hreads⟩ := Cursor.reads_append_iff.1 hreads
    obtain ⟨behind, hreadsName, hreads⟩ := Cursor.reads_append_iff.1 hreads
    obtain ⟨atFallback, hreadsAfter, hreads⟩ := Cursor.reads_append_iff.1 hreads
    obtain ⟨atBrace, hreadsFallback, hreadsBrace⟩ := Cursor.reads_append_iff.1 hreads
    have hstartsName : ∀ ch ∈ atName.rest.head?, isNameChar ch = true := by
      obtain ⟨first, others, rfl⟩ := List.exists_cons_of_ne_nil hne
      rw [hreadsName.1]
      intro ch hch
      obtain rfl := Option.some.inj hch
      exact hname first List.mem_cons_self
    have hskipBefore : c.skipBlanks = atSign :=
      Cursor.skipBlanks_eq_iff.2 ⟨⟨before, hbefore, hreadsBefore⟩,
        isBlank_eq_false_of_reads_sign hreadsSign hstartsName⟩
    have hstartsFallback : ∀ ch ∈ atFallback.rest.head?, ch = '=' ∨ ch = '}' := by
      rw [hreadsFallback.1, hreadsBrace.1]
      exact hfallback.head?_cases
    have hskipAfter : behind.skipBlanks = atFallback := by
      refine Cursor.skipBlanks_eq_iff.2 ⟨⟨after, hafter, hreadsAfter⟩, ?_⟩
      intro ch hch
      rcases hstartsFallback ch hch with rfl | rfl <;> decide
    have hend : ∀ ch ∈ behind.rest.head?, endsName ch = true :=
      endsName_of_reads_blanks hafter hreadsAfter hstartsFallback
    have hclosing : atBrace.rest.head? = some '}' := by
      rw [hreadsBrace.1]
      rfl
    simp only [readVariable, hskipBefore, readOperator_of_reads hreadsSign hstartsName,
      readName_of_reads hne hname hreadsName hend, hskipAfter,
      readFallback_of_spells hfallback hreadsFallback hclosing,
      readClosing_eq_ok_iff.2 hreadsBrace, Except.map]

/-- The text of a variable begins with an opening brace, which no second one follows. -/
theorem Variable.Spells.exists_eq_cons {v : Variable} {s : List Char} (h : v.Spells s) :
    ∃ second rest, s = '{' :: second :: rest ∧ second ≠ '{' := by
  cases h with
  | @mk before name after announced hbefore operator hne hname =>
    -- The second character is the first blank, the sign or the first character of the name.
    obtain ⟨first, others, rfl⟩ := List.exists_cons_of_ne_nil hne
    cases before with
    | cons blank blanks =>
      refine ⟨blank, _, rfl, ?_⟩
      rintro rfl
      exact absurd (hbefore '{' List.mem_cons_self) (by decide)
    | nil =>
      cases operator with
      | simple => exact ⟨first, _, rfl, (ne_of_isNameChar (hname first List.mem_cons_self)).2.2⟩
      | reserved => exact ⟨'+', _, rfl, by decide⟩
      | segment => exact ⟨'/', _, rfl, by decide⟩

/-! ## Items -/

/-- **A text of an item is read as that item**, whatever follows it.

**Proof sketch.** One case per constructor of the grammar. A text of a variable does not begin with
two braces (`Variable.Spells.exists_eq_cons`), so that it is not read as one. -/
theorem readItem?_of_spells {item : Item} {word : List Char} (h : item.Spells word)
    {c d : Cursor} (hreads : c.Reads word d) : readItem? c = .ok (some (item, d)) := by
  cases h with
  | openingBrace =>
    obtain ⟨offset, rest⟩ := d
    obtain ⟨hrest, rfl⟩ := hreads
    simp only [readItem?, show c.rest = '{' :: '{' :: rest from hrest]
    rfl
  | closingBrace =>
    obtain ⟨offset, rest⟩ := d
    obtain ⟨hrest, rfl⟩ := hreads
    simp only [readItem?, show c.rest = '}' :: '}' :: rest from hrest]
    rfl
  | @char first hopening hclosing =>
    obtain ⟨rest, hrest, hreads⟩ := Cursor.reads_cons_iff.1 hreads
    obtain rfl := Cursor.reads_nil_iff.1 hreads
    rw [readItem?_of_single hrest fun hbrace => (hbrace.elim hopening hclosing).elim,
      if_neg hopening, if_neg hclosing]
  | ofVariable h =>
    obtain ⟨second, word, rfl, hsecond⟩ := h.exists_eq_cons
    obtain ⟨rest, hrest, hreads⟩ := Cursor.reads_cons_iff.1 hreads
    have hhead : rest.head? ≠ some '{' := by
      rw [show rest = second :: (word ++ d.rest) from hreads.1]
      simpa using hsecond
    rw [readItem?_of_single hrest fun _ => hhead, if_pos rfl, readVariable_of_spells h hreads]
    rfl

/-- At the end of the text there is no item, and only there. -/
theorem readItem?_eq_ok_none_iff {c : Cursor} : readItem? c = .ok none ↔ c.rest = [] := by
  rcases readItem?_cases c with ⟨hrest, hread⟩ | ⟨brace, rest, -, hrest, hread⟩ |
    ⟨rest, hrest, -, hread⟩ | ⟨rest, hrest, -, hread⟩ | ⟨first, rest, hrest, -, -, hread⟩
  · simp [hrest, hread]
  · simp [hrest, hread]
  · cases hvariable : readVariable (c.after '{' rest) <;> simp [hrest, hread, hvariable, Except.map]
  · simp [hrest, hread]
  · simp [hrest, hread]

/-- **The items that are read are those that the text spells.**

**Proof sketch.** From left to right by the recursion of the reader, from right to left by induction
on the items: each one is read up to the end of its own text. -/
theorem readItems_eq_ok_iff {c : Cursor} {items : List Item} :
    readItems c = .ok items ↔ ItemsSpell items c.rest := by
  constructor
  · intro h
    fun_induction readItems c generalizing items with
    | case1 => simp at h
    | case2 c hend =>
      obtain rfl := Except.ok.inj h
      rw [readItem?_eq_ok_none_iff.1 hend]
      exact .nil
    | case3 c item next hread ih =>
      obtain ⟨others, hothers, rfl⟩ := map_eq_ok_iff.1 h
      obtain ⟨word, hword, hreads⟩ := spells_of_readItem? hread
      rw [hreads.1]
      exact .cons hword (ih hothers)
  · intro h
    generalize hs : c.rest = s at h
    induction h generalizing c with
    | nil => rw [readItems_eq, readItem?_eq_ok_none_iff.2 hs]
    | @cons item items own rest hown hrest ih =>
      obtain ⟨next, hreads, hnext⟩ : ∃ next, c.Reads own next ∧ next.rest = rest :=
        ⟨⟨c.offset + Text.utf8Length own, rest⟩, ⟨hs, rfl⟩, rfl⟩
      rw [readItems_eq, readItem?_of_spells hown hreads]
      simp only [ih hnext, Except.map]

/-! ## Parts -/

namespace Part

/-- The literal of a run stands before the other parts. -/
theorem withLiteral_eq (run : List Char) (parts : List Part) :
    withLiteral run parts = literals run ++ parts := by
  by_cases hrun : run = []
  · rw [withLiteral, literals, if_pos hrun, if_pos hrun, List.nil_append]
  · rw [withLiteral, literals, if_neg hrun, if_neg hrun, List.singleton_append]

/-- A run of characters joins the run that the other items start with. -/
theorem splitItems_append (run : List Char) (items : List Item) :
    splitItems (run.map .char ++ items) =
      (run ++ (splitItems items).1, (splitItems items).2) := by
  induction run with
  | nil => rfl
  | cons c run ih =>
    rw [List.map_cons, List.cons_append, splitItems, ih]
    rfl

/-- The parts of items behind a run merge the run with the characters that they start with. -/
theorem merges_splitItems (run : List Char) (items : List Item) :
    Merges (literals (run ++ (splitItems items).1) ++ (splitItems items).2)
      (run.map .char ++ items) := by
  induction items generalizing run with
  | nil => simpa [splitItems] using Merges.last run
  | cons item items ih =>
    -- A character makes the run before it longer; a variable ends it.
    cases item with
    | char c => simpa [splitItems] using ih (run ++ [c])
    | «variable» v =>
      have hitems : Merges (withLiteral (splitItems items).1 (splitItems items).2) items := by
        simpa [withLiteral_eq] using ih []
      simpa [splitItems] using Merges.cons run v hitems

/-- **The parts of a sequence of items** are the only ones that merge its longest runs of
characters. -/
theorem ofItems_eq_iff {items : List Item} {parts : List Part} :
    ofItems items = parts ↔ Merges parts items := by
  constructor
  · rintro rfl
    simpa [ofItems, withLiteral_eq] using merges_splitItems [] items
  · intro h
    induction h with
    | last run =>
      have hsplit := splitItems_append run []
      rw [List.append_nil] at hsplit
      simp [ofItems, hsplit, splitItems, withLiteral_eq]
    | @cons run v parts items h ih =>
      simp only [ofItems] at ih
      simp [ofItems, splitItems_append, splitItems, withLiteral_eq run, ih]

end Part

/-! ## The whole text -/

/-- **The parser reads a text as a template exactly where the text is a text of it.** -/
theorem parse_eq_ok_iff_spells {text : String} {t : Template} :
    parse text = .ok t ↔ t.Spells text.toList := by
  unfold parse Template.Spells
  constructor
  · intro h
    obtain ⟨items, hitems, rfl⟩ := map_eq_ok_iff.1 h
    exact ⟨items, readItems_eq_ok_iff.1 hitems, Part.ofItems_eq_iff.1 rfl⟩
  · rintro ⟨items, hspells, hmerges⟩
    refine map_eq_ok_iff.2 ⟨items, readItems_eq_ok_iff.2 hspells, ?_⟩
    rw [Part.ofItems_eq_iff.2 hmerges]

/-- **The parser accepts exactly the grammar of templates**, for every text: it reads the text as a
template where the text is a text of that template; no text is one of two templates; and every other
text is refused.

**Proof sketch.** An item is read off every text of it, and nothing else is read as it
(`spells_of_readItem?`, `readItem?_of_spells`), so the items of a text are what it spells; they
determine the parts (`Part.ofItems_eq_iff`). Uniqueness and refusal follow, since the parser is a
function. -/
theorem parse_accepts_template_grammar (text : String) :
    (∀ t : Template, parse text = .ok t ↔ t.Spells text.toList) ∧
      {t : Template | t.Spells text.toList}.Subsingleton ∧
      ((∃ error, parse text = .error error) ↔ ¬∃ t : Template, t.Spells text.toList) := by
  refine ⟨fun t => parse_eq_ok_iff_spells, ?_, ?_⟩
  · intro t ht t' ht'
    exact Except.ok.inj ((parse_eq_ok_iff_spells.2 ht).symm.trans (parse_eq_ok_iff_spells.2 ht'))
  · simp only [← parse_eq_ok_iff_spells]
    cases parse text <;> simp

end Remap.Uri
