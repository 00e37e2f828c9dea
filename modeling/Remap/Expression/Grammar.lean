import Remap.Expression.Basic
import Remap.Text.Blank

set_option relaxedAutoImplicit false
set_option autoImplicit false

/-!
# The grammar of path expressions

The source of an expression is a root, `rm` or `m`, and any number of accessors: `.name`,
`['name']`, `["name"]` and `[3]`. Blanks may stand before every accessor, inside brackets and at
both ends, but not behind a point. In a quoted name a backslash makes the next character stand for
itself. The grammar is said here by relations between expressions and their sources; many sources
spell one expression.

## Main definitions

* `Remap.Expression.isIdentifier` — the names that may stand behind a point.
* `Remap.Expression.Quotes` — a name between quotes.
* `Remap.Expression.Accessor.Spells`, `Remap.Expression.Spells` — the sources of an accessor and of
  an expression.

## Main results

* `Remap.Expression.Accessor.Spells.ne_nil` — an accessor takes at least one character.
* `Remap.Expression.AccessorsSpell.head?_cases` — what a sequence of accessors may start with.
-/

namespace Remap.Expression

open Remap.Text (Blanks isBlank)

/-! ## Identifiers -/

/-- The characters that an identifier may start with. -/
def isIdentifierStart (c : Char) : Bool :=
  c.isAlpha || c = '_' || c = '$'

/-- The characters that an identifier may go on with. -/
def isIdentifierChar (c : Char) : Bool :=
  c.isAlphanum || c = '_' || c = '$'

/-- Whether the characters form an identifier. -/
def isIdentifier : List Char → Bool
  | [] => false
  | first :: rest => isIdentifierStart first && rest.all isIdentifierChar

/-- An identifier may go on with each character that it may start with. -/
theorem isIdentifierChar_of_isIdentifierStart {c : Char} (h : isIdentifierStart c = true) :
    isIdentifierChar c = true := by
  simp only [isIdentifierStart, isIdentifierChar, Char.isAlphanum, Bool.or_eq_true] at h ⊢
  rcases h with (h | h) | h
  · left; left; left; exact h
  · left; right; exact h
  · right; exact h

/-- An identifier starts as one and goes on as one. -/
theorem isIdentifier_cons {first : Char} {rest : List Char} :
    isIdentifier (first :: rest) = true ↔
      isIdentifierStart first = true ∧ ∀ c ∈ rest, isIdentifierChar c = true := by
  rw [isIdentifier, Bool.and_eq_true, List.all_eq_true]

/-! ## Sources -/

/-- The symbol of a root. -/
def Root.source : Root → List Char
  | .rootModel => ['r', 'm']
  | .model => ['m']

/-- `Quotes quote name s` says that the name is spelled by `s` between two of the quotes: a
backslash and any character stand for that character, and any other character but the quote for
itself. -/
inductive Quotes (quote : Char) : List Char → List Char → Prop
  | nil : Quotes quote [] []
  | escaped (c : Char) {name s : List Char} (h : Quotes quote name s) :
      Quotes quote (c :: name) ('\\' :: c :: s)
  | plain {c : Char} (hquote : c ≠ quote) (hback : c ≠ '\\') {name s : List Char}
      (h : Quotes quote name s) : Quotes quote (c :: name) (c :: s)

namespace Accessor

/-- `a.SpellsContent s` says that `s` is what stands between the brackets of the accessor: a name
between two quotes of one kind, or one or more digits whose value is a 64-bit word. -/
inductive SpellsContent : Accessor → List Char → Prop
  | name {quote : Char} (hquote : quote = '\x27' ∨ quote = '\"') {name s : List Char}
      (h : Quotes quote name s) :
      SpellsContent (.member (String.ofList name)) (quote :: (s ++ [quote]))
  | digits {s : List Char} (hne : s ≠ []) (hdigits : ∀ c ∈ s, c.isDigit = true)
      (hvalue : Nat.ofDigitChars 10 s 0 < UInt64.size) :
      SpellsContent (.index (UInt64.ofNat (Nat.ofDigitChars 10 s 0))) s

/-- `a.Spells s` says that `s` is a source of the accessor, from its point or opening bracket on. -/
inductive Spells : Accessor → List Char → Prop
  | point {name : List Char} (h : isIdentifier name = true) :
      Spells (.member (String.ofList name)) ('.' :: name)
  | brackets {a : Accessor} {before content after : List Char} (hbefore : Blanks before)
      (h : a.SpellsContent content) (hafter : Blanks after) :
      Spells a ('[' :: (before ++ (content ++ (after ++ [']']))))

end Accessor

/-- `AccessorsSpell as s` says that `s` is a source of the accessors one after the other, with
blanks before each of them and behind the last one. -/
inductive AccessorsSpell : List Accessor → List Char → Prop
  | nil {blanks : List Char} (h : Blanks blanks) : AccessorsSpell [] blanks
  | cons {a : Accessor} {as : List Accessor} {before own rest : List Char} (hbefore : Blanks before)
      (h : a.Spells own) (hrest : AccessorsSpell as rest) :
      AccessorsSpell (a :: as) (before ++ (own ++ rest))

/-- `e.Spells s` says that `s` is a source of the expression: its root, with blanks before it, and
its accessors. -/
inductive Spells : Expression → List Char → Prop
  | mk {before : List Char} (hbefore : Blanks before) (root : Root) {as : List Accessor}
      {rest : List Char} (hrest : AccessorsSpell as rest) :
      Spells ⟨root, as⟩ (before ++ (root.source ++ rest))

/-! ## What sources start with -/

/-- An accessor starts with a point or a bracket. -/
theorem Accessor.Spells.head?_cases {a : Accessor} {s : List Char} (h : a.Spells s) :
    s.head? = some '.' ∨ s.head? = some '[' := by
  cases h with
  | point => left; rfl
  | brackets => right; rfl

/-- An accessor takes at least one character. -/
theorem Accessor.Spells.ne_nil {a : Accessor} {s : List Char} (h : a.Spells s) : s ≠ [] := by
  cases h <;> simp

/-- A sequence of accessors starts with a blank, a point or a bracket, if with anything. -/
theorem AccessorsSpell.head?_cases {as : List Accessor} {s : List Char} (h : AccessorsSpell as s) :
    ∀ c ∈ s.head?, isBlank c = true ∨ c = '.' ∨ c = '[' := by
  intro c hc
  cases h with
  | nil hblanks => left; exact hblanks c (List.mem_of_mem_head? hc)
  | @cons a as before own rest hbefore hown hrest =>
    rw [List.head?_append] at hc
    cases hhead : before.head? with
    | some blank =>
      rw [hhead, Option.some_or] at hc
      obtain rfl := Option.some.inj hc
      left; exact hbefore blank (List.mem_of_mem_head? hhead)
    | none =>
      rw [hhead, Option.none_or, List.head?_append] at hc
      rcases hown.head?_cases with hown | hown
      · right; left
        rw [hown, Option.some_or] at hc
        exact (Option.some.inj hc).symm
      · right; right
        rw [hown, Option.some_or] at hc
        exact (Option.some.inj hc).symm

end Remap.Expression
