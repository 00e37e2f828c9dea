import Mathlib.Data.Set.Subsingleton
import Remap.Expression.Parser
import Remap.Text.Alphanumeric

set_option relaxedAutoImplicit false
set_option autoImplicit false

/-!
# The parser of path expressions accepts its grammar

What the parser reads is a source of what it reads it as; here is the other direction: every source
of an expression is read as that expression. Identifiers and digits are read as far as they go, so
what matters is where they stop. An identifier stops at the next accessor, since accessors begin
with a blank, a point or a bracket, and none of these belongs to an identifier; digits stop at a
blank or at the closing bracket.

## Main results

* `Remap.Expression.readQuoted_of_quotes` — a quoted name is read up to its own closing quote.
* `Remap.Expression.readAccessor?_of_spells` — a source of an accessor is read as that accessor.
* `Remap.Expression.parse_eq_ok_iff_spells` — the parser reads exactly the sources of an expression.
* `Remap.Expression.parse_accepts_grammar` — the parser accepts exactly the grammar.
-/

namespace Remap.Expression

open Remap.Text (Cursor Blanks isBlank)

/-! ## Where words stop -/

/-- No blank belongs to an identifier. -/
theorem isIdentifierChar_eq_false_of_isBlank {c : Char} (h : isBlank c = true) :
    isIdentifierChar c = false := by
  rw [Bool.eq_false_iff]
  intro hchar
  simp only [isIdentifierChar, Bool.or_eq_true, decide_eq_true_eq] at hchar
  rcases hchar with (hchar | rfl) | rfl
  · have halphanumeric := Text.isAlphanumeric_of_isAlphanum hchar
    rw [Text.isAlphanumeric_eq_false_of_isBlank h] at halphanumeric
    simp at halphanumeric
  · exact absurd h (by decide)
  · exact absurd h (by decide)

/-- A digit belongs to an identifier. -/
theorem isIdentifierChar_of_isDigit {c : Char} (h : c.isDigit = true) :
    isIdentifierChar c = true := by
  simp [isIdentifierChar, Char.isAlphanum, h]

/-- A digit is not blank. -/
theorem isBlank_eq_false_of_isDigit {c : Char} (h : c.isDigit = true) : isBlank c = false := by
  rw [Bool.eq_false_iff]
  intro hblank
  have hchar := isIdentifierChar_eq_false_of_isBlank hblank
  rw [isIdentifierChar_of_isDigit h] at hchar
  simp at hchar

/-- No source of an accessor starts with a blank, whatever follows it. -/
theorem Accessor.Spells.isBlank_eq_false {a : Accessor} {s rest : List Char} (h : a.Spells s) :
    ∀ c ∈ (s ++ rest).head?, isBlank c = false := by
  rw [List.head?_append]
  intro c hc
  rcases h.head?_cases with hhead | hhead
  · rw [hhead, Option.some_or] at hc
    obtain rfl := Option.some.inj hc
    decide
  · rw [hhead, Option.some_or] at hc
    obtain rfl := Option.some.inj hc
    decide

/-- An identifier stops where a sequence of accessors follows. -/
theorem AccessorsSpell.isIdentifierChar_eq_false {as : List Accessor} {s : List Char}
    (h : AccessorsSpell as s) : ∀ c ∈ s.head?, isIdentifierChar c = false := by
  intro c hc
  rcases h.head?_cases c hc with hblank | rfl | rfl
  · exact isIdentifierChar_eq_false_of_isBlank hblank
  · decide
  · decide

/-! ## Accessors -/

/-- A quoted name is read up to its own closing quote, quotes and backslashes in it included.

**Proof sketch.** Induction on the name. A backslash and the character behind it are read as that
character; any other character but the quote is read as itself. -/
theorem readQuoted_of_quotes {quote : Char} (hquote : quote ≠ '\\') {name body : List Char}
    (h : Quotes quote name body) {offset : Nat} {s : List Char} {d : Cursor}
    (hreads : (Cursor.mk offset s).Reads (body ++ [quote]) d) :
    readQuoted quote offset s = .ok (name, d) := by
  induction h generalizing offset s with
  | nil =>
    obtain ⟨rest, rfl, hd⟩ := Cursor.reads_cons_iff.1 hreads
    obtain rfl := Cursor.reads_nil_iff.1 hd
    rw [readQuoted.eq_4 _ _ _ _ (fun hback _ => hquote hback) (fun _ _ hback _ => hquote hback),
      if_pos rfl]
    rfl
  | escaped c h ih =>
    obtain ⟨rest, rfl, hreads⟩ := Cursor.reads_cons_iff.1 hreads
    obtain ⟨rest, rfl, hreads⟩ := Cursor.reads_cons_iff.1 hreads
    have hread : readQuoted quote (offset + 1 + c.utf8Size) rest = .ok (_, d) := ih hreads
    rw [readQuoted, hread]
    rfl
  | plain hne hback h ih =>
    obtain ⟨rest, rfl, hreads⟩ := Cursor.reads_cons_iff.1 hreads
    rw [readQuoted.eq_4 _ _ _ _ (fun heq _ => hback heq) (fun _ _ heq _ => hback heq), if_neg hne,
      ih hreads]
    rfl

/-- The content of brackets is read where no digit follows it. -/
theorem readContent_of_spellsContent {a : Accessor} {word : List Char} (h : a.SpellsContent word)
    {c d : Cursor} (hreads : c.Reads word d) (hstop : ∀ ch ∈ d.rest.head?, ch.isDigit = false) :
    readContent c = .ok (a, d) := by
  cases h with
  | @name quote hquote name body hbody =>
    obtain ⟨rest, hrest, hreads⟩ := Cursor.reads_cons_iff.1 hreads
    have hback : quote ≠ '\\' := by rcases hquote with rfl | rfl <;> decide
    simp only [readContent, hrest, if_pos hquote, readQuoted_of_quotes hback hbody hreads,
      Except.map]
  | digits hne hdigits hvalue =>
    obtain ⟨first, others, rfl⟩ := List.exists_cons_of_ne_nil hne
    have hfirst := hdigits first List.mem_cons_self
    have hquote : ¬(first = '\x27' ∨ first = '\"') := by
      rintro (rfl | rfl) <;> exact absurd hfirst (by decide)
    have hrest : c.rest = first :: (others ++ d.rest) := hreads.1
    simp only [readContent, hrest, if_neg hquote, if_pos hfirst,
      Cursor.span_eq_iff.2 ⟨hdigits, hreads, hstop⟩, Text.ofDigits?, if_pos hvalue]

/-- The content of brackets does not start with a blank. -/
theorem Accessor.SpellsContent.isBlank_eq_false {a : Accessor} {word : List Char}
    (h : a.SpellsContent word) (rest : List Char) :
    ∀ ch ∈ (word ++ rest).head?, isBlank ch = false := by
  intro ch hch
  cases h with
  | name hquote =>
    obtain rfl := Option.some.inj hch
    rcases hquote with rfl | rfl <;> decide
  | digits hne hdigits =>
    obtain ⟨first, others, rfl⟩ := List.exists_cons_of_ne_nil hne
    obtain rfl := Option.some.inj hch
    exact isBlank_eq_false_of_isDigit (hdigits first List.mem_cons_self)

/-- What follows an opening bracket is read up to the closing one.

**Proof sketch.** The blanks before and behind the content end where it begins and where the bracket
stands, since neither is blank, and no digit of the content is left behind it. -/
theorem readBracketed_of_spellsContent {a : Accessor} {before content after : List Char}
    (hbefore : Blanks before) (h : a.SpellsContent content) (hafter : Blanks after) {c d : Cursor}
    (hreads : c.Reads (before ++ (content ++ (after ++ [']']))) d) :
    readBracketed c = .ok (a, d) := by
  obtain ⟨atContent, hreadsBefore, hreads⟩ := Cursor.reads_append_iff.1 hreads
  obtain ⟨behind, hreadsContent, hreads⟩ := Cursor.reads_append_iff.1 hreads
  obtain ⟨atBracket, hreadsAfter, hreadsBracket⟩ := Cursor.reads_append_iff.1 hreads
  have hskipBefore : c.skipBlanks = atContent := by
    refine Cursor.skipBlanks_eq_iff.2 ⟨⟨before, hbefore, hreadsBefore⟩, ?_⟩
    rw [hreadsContent.1]
    exact h.isBlank_eq_false behind.rest
  have hskipAfter : behind.skipBlanks = atBracket := by
    refine Cursor.skipBlanks_eq_iff.2 ⟨⟨after, hafter, hreadsAfter⟩, ?_⟩
    rw [hreadsBracket.1]
    simp
    decide
  have hstop : ∀ ch ∈ behind.rest.head?, ch.isDigit = false := by
    rw [hreadsAfter.1, hreadsBracket.1]
    intro ch hch
    cases after with
    | nil =>
      obtain rfl := Option.some.inj hch
      decide
    | cons blank blanks =>
      obtain rfl := Option.some.inj hch
      rw [Bool.eq_false_iff]
      intro hdigit
      have hblank := hafter blank List.mem_cons_self
      rw [isBlank_eq_false_of_isDigit hdigit] at hblank
      simp at hblank
  simp only [readBracketed, hskipBefore, readContent_of_spellsContent h hreadsContent hstop,
    hskipAfter, readClosing_eq_ok_iff.2 hreadsBracket, Except.map]

/-- Brackets are read as the accessor in them, whatever follows them. -/
theorem readAccessor?_of_brackets {a : Accessor} {before content after : List Char}
    (hbefore : Blanks before) (h : a.SpellsContent content) (hafter : Blanks after) {c d : Cursor}
    (hreads : c.Reads ('[' :: (before ++ (content ++ (after ++ [']'])))) d) :
    readAccessor? c = .ok (some (a, d)) := by
  obtain ⟨rest, hrest, hreads⟩ := Cursor.reads_cons_iff.1 hreads
  have hpoint : '[' ≠ '.' := by decide
  simp only [readAccessor?, hrest, if_neg hpoint, if_true,
    readBracketed_of_spellsContent hbefore h hafter hreads, Except.map]

/-- **A source of an accessor is read as that accessor** where nothing follows it that could belong
to an identifier. -/
theorem readAccessor?_of_spells {a : Accessor} {word : List Char} (h : a.Spells word) {c d : Cursor}
    (hreads : c.Reads word d) (hstop : ∀ ch ∈ d.rest.head?, isIdentifierChar ch = false) :
    readAccessor? c = .ok (some (a, d)) := by
  cases h with
  | @point name hname =>
    obtain ⟨rest, hrest, hreads⟩ := Cursor.reads_cons_iff.1 hreads
    rw [← String.toList_ofList (l := name)] at hname hreads
    simp only [readAccessor?, hrest, if_true,
      readIdentifier_eq_ok_iff.2 ⟨hname, hreads, hstop⟩, Except.map]
  | brackets hbefore hcontent hafter =>
    exact readAccessor?_of_brackets hbefore hcontent hafter hreads

/-! ## Whole sources -/

/-- At the end of the text there is no accessor, and only there. -/
theorem readAccessor?_eq_ok_none_iff {c : Cursor} : readAccessor? c = .ok none ↔ c.rest = [] := by
  rcases readAccessor?_cases c with ⟨hrest, hread⟩ | ⟨first, rest, hrest,
    ⟨-, hread⟩ | ⟨-, hread⟩ | ⟨-, -, hread⟩⟩
  · simp [hrest, hread]
  · cases hname : readIdentifier (c.after first rest) <;> simp [hrest, hread, hname, Except.map]
  · cases hinner : readBracketed (c.after first rest) <;> simp [hrest, hread, hinner, Except.map]
  · simp [hrest, hread]

/-- **What is left of a text is read as accessors where it is a source of them.**

**Proof sketch.** From left to right by the recursion of the reader: each accessor that is read is
spelled by what lies between the places. From right to left by induction on the accessors: the
blanks before the first one are skipped, and it is read up to the next one. -/
theorem readAccessors_eq_ok_iff {c : Cursor} {as : List Accessor} :
    readAccessors c = .ok as ↔ AccessorsSpell as c.rest := by
  constructor
  · intro h
    fun_induction readAccessors c generalizing as with
    | case1 => simp at h
    | case2 c hend =>
      obtain rfl := Except.ok.inj h
      obtain ⟨⟨blanks, hblanks, hreads⟩, -⟩ := Cursor.skipBlanks_eq_iff.1 (rfl : c.skipBlanks = _)
      rw [hreads.1, readAccessor?_eq_ok_none_iff.1 hend, List.append_nil]
      exact .nil hblanks
    | case3 c a next hread ih =>
      obtain ⟨others, hothers, rfl⟩ := map_eq_ok_iff.1 h
      obtain ⟨⟨blanks, hblanks, hreads⟩, -⟩ := Cursor.skipBlanks_eq_iff.1 (rfl : c.skipBlanks = _)
      obtain ⟨word, hword, hreadsWord⟩ := spells_of_readAccessor? hread
      rw [hreads.1, hreadsWord.1]
      exact .cons hblanks hword (ih hothers)
  · intro h
    generalize hs : c.rest = s at h
    induction h generalizing c with
    | @nil blanks hblanks =>
      have hskip : c.skipBlanks = ⟨c.offset + Text.utf8Length blanks, []⟩ := by
        refine Cursor.skipBlanks_eq_iff.2 ⟨⟨blanks, hblanks, ?_, rfl⟩, by simp⟩
        rw [hs, List.append_nil]
      rw [readAccessors_eq, hskip, readAccessor?_eq_ok_none_iff.2 rfl]
    | @cons a as before own rest hbefore hown hrest ih =>
      have hreads : c.Reads (before ++ (own ++ rest))
          ⟨c.offset + Text.utf8Length (before ++ (own ++ rest)), []⟩ :=
        ⟨by rw [hs, List.append_nil], rfl⟩
      obtain ⟨atOwn, hreadsBefore, hreads⟩ := Cursor.reads_append_iff.1 hreads
      obtain ⟨atRest, hreadsOwn, hreadsRest⟩ := Cursor.reads_append_iff.1 hreads
      have hrestText : atRest.rest = rest := by
        rw [hreadsRest.1, List.append_nil]
      have hskip : c.skipBlanks = atOwn := by
        refine Cursor.skipBlanks_eq_iff.2 ⟨⟨before, hbefore, hreadsBefore⟩, ?_⟩
        rw [hreadsOwn.1]
        exact hown.isBlank_eq_false
      have hstop : ∀ ch ∈ atRest.rest.head?, isIdentifierChar ch = false := by
        rw [hrestText]
        exact hrest.isIdentifierChar_eq_false
      rw [readAccessors_eq, hskip, readAccessor?_of_spells hown hreadsOwn hstop]
      simp only [ih hrestText, Except.map]

/-- A root is read as a whole identifier.

**Proof sketch.** A root is an identifier that is looked up. Where one is read, the identifier is
that of the root (`readRoot_cases`). Conversely the source of each root is read as a whole
identifier (`readIdentifier_eq_ok_iff`), and looking it up computes. -/
theorem readRoot_eq_ok_iff {c d : Cursor} {root : Root} :
    readRoot c = .ok (root, d) ↔
      c.Reads root.source d ∧ ∀ ch ∈ d.rest.head?, isIdentifierChar ch = false := by
  constructor
  · intro h
    rcases readRoot_cases c with ⟨error, -, hread⟩ | ⟨root', next, hname, hread⟩ |
      ⟨name, next, -, -, -, hread⟩
    · simp [hread] at h
    · rw [hread] at h
      obtain ⟨rfl, rfl⟩ := Prod.mk.inj (Except.ok.inj h)
      obtain ⟨-, hreads, hstop⟩ := readIdentifier_eq_ok_iff.1 hname
      rw [String.toList_ofList] at hreads
      exact ⟨hreads, hstop⟩
    · simp [hread] at h
  · rintro ⟨hreads, hstop⟩
    cases root with
    | rootModel =>
      have hname : readIdentifier c = .ok ("rm", d) :=
        readIdentifier_eq_ok_iff.2 ⟨by decide, hreads, hstop⟩
      rw [readRoot, hname]
      rfl
    | model =>
      have hname : readIdentifier c = .ok ("m", d) :=
        readIdentifier_eq_ok_iff.2 ⟨by decide, hreads, hstop⟩
      rw [readRoot, hname]
      rfl

/-- A root with blanks before it is read where no more of an identifier follows. -/
theorem parse_of_reads {source : String} {before : List Char} {root : Root} {c : Cursor}
    (hbefore : Blanks before)
    (hreads : (Cursor.start source.toList).Reads (before ++ root.source) c)
    (hstop : ∀ ch ∈ c.rest.head?, isIdentifierChar ch = false) :
    parse source = (readAccessors c).map (Expression.mk root) := by
  obtain ⟨atRoot, hreadsBefore, hreadsRoot⟩ := Cursor.reads_append_iff.1 hreads
  have hskip : (Cursor.start source.toList).skipBlanks = atRoot := by
    refine Cursor.skipBlanks_eq_iff.2 ⟨⟨before, hbefore, hreadsBefore⟩, ?_⟩
    rw [hreadsRoot.1]
    cases root <;> simp [Root.source] <;> decide
  rw [parse, hskip, readRoot_eq_ok_iff.2 ⟨hreadsRoot, hstop⟩]

/-- **The parser reads a text as an expression exactly where the text is a source of it.**

**Proof sketch.** From left to right the blanks, the root and the accessors lie between the places
that the readers come to. From right to left the root ends where the accessors begin
(`AccessorsSpell.isIdentifierChar_eq_false`), so it is read whole (`parse_of_reads`). -/
theorem parse_eq_ok_iff_spells {source : String} {e : Expression} :
    parse source = .ok e ↔ e.Spells source.toList := by
  constructor
  · intro h
    rw [parse] at h
    cases hroot : readRoot (Cursor.start source.toList).skipBlanks with
    | error error => simp [hroot] at h
    | ok result =>
      obtain ⟨root, next⟩ := result
      rw [hroot] at h
      obtain ⟨as, haccessors, rfl⟩ := map_eq_ok_iff.1 h
      obtain ⟨⟨before, hbefore, hreads⟩, -⟩ := Cursor.skipBlanks_eq_iff.1
        (rfl : (Cursor.start source.toList).skipBlanks = _)
      obtain ⟨hreadsRoot, -⟩ := readRoot_eq_ok_iff.1 hroot
      rw [show source.toList = _ from hreads.1, hreadsRoot.1]
      exact .mk hbefore root (readAccessors_eq_ok_iff.1 haccessors)
  · intro h
    generalize hs : source.toList = s at h
    cases h with
    | @mk before hbefore root as rest hrest =>
      obtain ⟨atRest, hreads, hreadsRest⟩ :=
        Cursor.reads_append_iff.1 (Cursor.reads_start (before ++ root.source ++ rest))
      have hrestText : atRest.rest = rest := by
        rw [hreadsRest.1, List.append_nil]
      have hstop : ∀ ch ∈ atRest.rest.head?, isIdentifierChar ch = false := by
        rw [hrestText]
        exact hrest.isIdentifierChar_eq_false
      have haccessors : readAccessors atRest = .ok as :=
        readAccessors_eq_ok_iff.2 (by rwa [hrestText])
      rw [List.append_assoc, ← hs] at hreads
      rw [parse_of_reads hbefore hreads hstop, haccessors]
      rfl

/-- **The parser accepts exactly the grammar**, for every text: it reads the text as an expression
where the text is a source of that expression; no text is a source of two expressions; and every
text that is a source of none is refused.

**Proof sketch.** Every reader returns what the word between its places spells, and reads every word
that spells something when what follows the word cannot belong to it (`spells_of_readAccessor?`,
`readAccessor?_of_spells`). Over the accessors of a source this gives `parse_eq_ok_iff_spells`; the
other two statements hold because the parser is a function. -/
theorem parse_accepts_grammar (source : String) :
    (∀ e : Expression, parse source = .ok e ↔ e.Spells source.toList) ∧
      {e : Expression | e.Spells source.toList}.Subsingleton ∧
      ((∃ error, parse source = .error error) ↔ ¬∃ e : Expression, e.Spells source.toList) := by
  refine ⟨fun e => parse_eq_ok_iff_spells, ?_, ?_⟩
  · intro e he e' he'
    exact Except.ok.inj ((parse_eq_ok_iff_spells.2 he).symm.trans (parse_eq_ok_iff_spells.2 he'))
  · simp only [← parse_eq_ok_iff_spells]
    cases parse source <;> simp

end Remap.Expression
