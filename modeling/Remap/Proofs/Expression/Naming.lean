import Mathlib.Data.List.Forall2
import Remap.Expression.Compiler
import Remap.Proofs.Expression.Completeness

set_option relaxedAutoImplicit false
set_option autoImplicit false

/-!
# Indices and the names of indices

An index and the member name of its decimal digits lead to the same place of every value: in an
object the index stands for the member of that name, and in an array the name stands for the item at
that index. So the indices of an expression can be named, any of them, and the expression reaches
the same value or fails for the same reason. In a source this means that `['n']` may stand where
`[digits]` stands, whatever blanks and leading zeros there are.

To speak of the places of a source, it is taken apart into its root and its accessors, each with the
characters that spell it.

## Main definitions

* `Remap.Expression.Accessor.named`, `Remap.Expression.nameAt` — an index as a member name.
* `Remap.Expression.Accessor.Spelling`, `Remap.Expression.Spelling` — a source in pieces.
* `Remap.Expression.Spelling.nameAt` — the source with quoted digits in place of indices.

## Main results

* `Remap.Expression.Accessor.step_named` — an index and its name are the same step.
* `Remap.Expression.parse_eq_ok_iff_spelling` — the sources that are read are those of the pieces.
* `Remap.Expression.eval_nameAt` — naming indices does not change the outcome of an evaluation.
-/

namespace Remap.Expression

open Remap.Text (Blanks decimal)

/-! ## One step -/

/-- The accessor by name: an index by its decimal digits. -/
def Accessor.named : Accessor → Accessor
  | .index position => .member (decimal position.toNat)
  | .member name => .member name

/-- **An index and its name are the same step** into every value. -/
theorem Accessor.step_named (a : Accessor) (value : Json) : a.named.step value = a.step value := by
  cases a with
  | member name => rfl
  | index position =>
    cases value with
    | array items => simp only [named, step, Text.index?_decimal]
    | _ => rfl

/-! ## Expressions -/

/-- The list with the chosen places changed. -/
def changeAt {α : Type} (chosen : Nat → Bool) (change : α → α) (xs : List α) : List α :=
  xs.mapIdx fun i x => if chosen i then change x else x

/-- Every element is changed or stays. -/
theorem forall₂_changeAt {α : Type} (chosen : Nat → Bool) (change : α → α) (xs : List α) :
    List.Forall₂ (fun x y => y = x ∨ y = change x) xs (changeAt chosen change xs) := by
  refine List.forall₂_iff_get.2 ⟨by simp [changeAt], fun i hi hi' => ?_⟩
  simp only [changeAt, List.get_eq_getElem, List.getElem_mapIdx]
  by_cases hchosen : chosen i = true
  · rw [if_pos hchosen]
    right; rfl
  · rw [if_neg hchosen]
    left; rfl

/-- A function that carries one change over to another carries them over at the chosen places. -/
theorem map_changeAt {α β : Type} {f : α → β} {change : α → α} {change' : β → β}
    (h : ∀ x, f (change x) = change' (f x)) (chosen : Nat → Bool) (xs : List α) :
    (changeAt chosen change xs).map f = changeAt chosen change' (xs.map f) := by
  refine List.ext_getElem (by simp [changeAt]) fun i hi hi' => ?_
  simp only [changeAt, List.getElem_map, List.getElem_mapIdx]
  by_cases hchosen : chosen i = true
  · rw [if_pos hchosen, if_pos hchosen]
    exact h _
  · rw [if_neg hchosen, if_neg hchosen]

/-- The expression with the accessors at the chosen places named. -/
def nameAt (chosen : Nat → Bool) (e : Expression) : Expression :=
  ⟨e.root, changeAt chosen Accessor.named e.accessors⟩

/-- Paths whose steps are the same one by one lead to the same place, or end for the same reason. -/
theorem follow_eq_of_forall₂ {as bs : List Accessor}
    (h : List.Forall₂ (fun a b => ∀ value, b.step value = a.step value) as bs) (value : Json) :
    follow bs value = follow as value := by
  induction h generalizing value with
  | nil => rfl
  | @cons a b as bs hstep _ ih =>
    rw [follow, follow, hstep value]
    cases a.step value with
    | ok next => exact ih next
    | error error => rfl

/-- Naming indices does not change what a path leads to. -/
theorem follow_changeAt_named (chosen : Nat → Bool) (as : List Accessor) (value : Json) :
    follow (changeAt chosen Accessor.named as) value = follow as value := by
  refine follow_eq_of_forall₂ ((forall₂_changeAt chosen Accessor.named as).imp ?_) value
  rintro a b (rfl | rfl)
  · exact fun value => rfl
  · exact a.step_named

/-! ## Sources in pieces -/

/-- An accessor as it stands in a source: the blanks before it and the characters that spell it. -/
structure Accessor.Spelling where
  accessor : Accessor
  before : List Char
  own : List Char
  blanks_before : Blanks before
  spells : accessor.Spells own

/-- A source in pieces: its root and its accessors, with the blanks before the root and at the
end. -/
structure Spelling where
  before : List Char
  root : Root
  accessors : List Accessor.Spelling
  after : List Char
  blanks_before : Blanks before
  blanks_after : Blanks after

/-- The characters of the piece. -/
def Accessor.Spelling.text (piece : Accessor.Spelling) : List Char :=
  piece.before ++ piece.own

/-- The source that the pieces make. -/
def Spelling.text (s : Spelling) : String :=
  String.ofList
    (s.before ++ (s.root.source ++ (s.accessors.flatMap Accessor.Spelling.text ++ s.after)))

/-- The expression that the pieces spell. -/
def Spelling.expression (s : Spelling) : Expression :=
  ⟨s.root, s.accessors.map Accessor.Spelling.accessor⟩

/-- The pieces of accessors, and blanks behind them, spell the accessors. -/
theorem accessorsSpell_flatMap (pieces : List Accessor.Spelling) {after : List Char}
    (hafter : Blanks after) :
    AccessorsSpell (pieces.map Accessor.Spelling.accessor)
      (pieces.flatMap Accessor.Spelling.text ++ after) := by
  induction pieces with
  | nil => exact .nil hafter
  | cons piece rest ih =>
    rw [List.map_cons, List.flatMap_cons, Accessor.Spelling.text, List.append_assoc,
      List.append_assoc]
    exact .cons piece.blanks_before piece.spells ih

/-- A source of accessors is made of pieces. -/
theorem AccessorsSpell.exists_pieces {as : List Accessor} {s : List Char}
    (h : AccessorsSpell as s) :
    ∃ (pieces : List Accessor.Spelling) (after : List Char), Blanks after ∧
      pieces.map Accessor.Spelling.accessor = as ∧
      pieces.flatMap Accessor.Spelling.text ++ after = s := by
  induction h with
  | nil hblanks => exact ⟨[], _, hblanks, rfl, rfl⟩
  | @cons a as before own rest hbefore hown _ ih =>
    obtain ⟨pieces, after, hafter, rfl, rfl⟩ := ih
    exact ⟨⟨a, before, own, hbefore, hown⟩ :: pieces, after, hafter, rfl,
      by simp [Accessor.Spelling.text]⟩

/-- **The sources that are read as an expression are those in pieces that spell it.** -/
theorem parse_eq_ok_iff_spelling {source : String} {e : Expression} :
    parse source = .ok e ↔ ∃ s : Spelling, s.text = source ∧ s.expression = e := by
  rw [parse_eq_ok_iff_spells]
  constructor
  · intro h
    generalize hsource : source.toList = text at h
    cases h with
    | @mk before hbefore root as rest hrest =>
      obtain ⟨pieces, after, hafter, rfl, rfl⟩ := hrest.exists_pieces
      refine ⟨⟨before, root, pieces, after, hbefore, hafter⟩, ?_, rfl⟩
      rw [Spelling.text, ← hsource, String.ofList_toList]
  · rintro ⟨s, rfl, rfl⟩
    rw [Spelling.text, String.toList_ofList]
    exact .mk s.blanks_before s.root (accessorsSpell_flatMap s.accessors s.blanks_after)

/-! ## Naming indices in a source -/

/-- A name without quotes of the kind and without backslashes spells itself between the quotes. -/
theorem quotes_self {quote : Char} {name : List Char}
    (h : ∀ c ∈ name, c ≠ quote ∧ c ≠ '\\') : Quotes quote name name := by
  induction name with
  | nil => exact .nil
  | cons c rest ih =>
    obtain ⟨⟨hquote, hback⟩, hrest⟩ := List.forall_mem_cons.1 h
    exact .plain hquote hback (ih hrest)

/-- The decimal digits of a number, between quotes and in brackets. -/
def quotedDigits (n : Nat) : List Char :=
  '[' :: '\x27' :: ((decimal n).toList ++ ['\x27', ']'])

/-- Quoted digits spell the member of that name. -/
theorem Accessor.spells_quotedDigits (n : Nat) :
    (Accessor.member (decimal n)).Spells (quotedDigits n) := by
  have hnone : Blanks [] := by simp [Blanks]
  have hquotes : Quotes '\x27' (decimal n).toList (decimal n).toList := by
    refine quotes_self fun c hc => ?_
    rw [decimal, String.toList_ofList] at hc
    have hdigit : c.isDigit = true := Nat.isDigit_of_mem_toDigits (by decide) (by decide) hc
    constructor <;> rintro rfl <;> exact absurd hdigit (by decide)
  have hcontent := SpellsContent.name (.inl rfl) hquotes
  rw [String.ofList_toList] at hcontent
  have hspells := Spells.brackets hnone hcontent hnone
  simpa [quotedDigits] using hspells

/-- The piece with quoted digits in place of an index: `['n']` for `[digits]`, where `n` is the
number that the digits denote, without leading zeros. -/
def Accessor.Spelling.named : Accessor.Spelling → Accessor.Spelling
  | ⟨.index position, before, _, hbefore, _⟩ =>
    ⟨.member (decimal position.toNat), before, quotedDigits position.toNat, hbefore,
      Accessor.spells_quotedDigits position.toNat⟩
  | ⟨.member name, before, own, hbefore, hown⟩ => ⟨.member name, before, own, hbefore, hown⟩

/-- The piece spells the accessor by name. -/
theorem Accessor.Spelling.accessor_named (piece : Accessor.Spelling) :
    piece.named.accessor = piece.accessor.named := by
  obtain ⟨a, before, own, hbefore, hown⟩ := piece
  cases a <;> rfl

/-- The source with quoted digits in place of the indices among the chosen accessors. -/
def Spelling.nameAt (chosen : Nat → Bool) (s : Spelling) : Spelling :=
  { s with accessors := changeAt chosen Accessor.Spelling.named s.accessors }

/-- Naming indices in a source names them in its expression. -/
theorem Spelling.expression_nameAt (chosen : Nat → Bool) (s : Spelling) :
    (s.nameAt chosen).expression = s.expression.nameAt chosen := by
  simp only [expression, nameAt, Expression.nameAt,
    map_changeAt Accessor.Spelling.accessor_named]

/-- **Indices and their names are interchangeable.** An expression and the one with any of its
indices named reach the same value in every context, or fail for the same reason. Every source that
is accepted can be taken apart, and however it is: with quoted digits in place of any of its indices
it is accepted as the expression with these indices named, and both compile to evaluators that agree
in every context.

**Proof sketch.** An index and its name are the same step (`Accessor.step_named`), and so are paths
of them one by one. A source in pieces is read as what the pieces spell
(`parse_eq_ok_iff_spelling`), and quoted digits spell the name. -/
theorem eval_nameAt :
    (∀ (e : Expression) (chosen : Nat → Bool) (context : Json),
      (e.nameAt chosen).eval context = e.eval context) ∧
    ∀ (source : String) (e : Expression), parse source = .ok e →
      (∃ s : Spelling, s.text = source) ∧
      ∀ s : Spelling, s.text = source → s.expression = e ∧ ∀ chosen : Nat → Bool,
        parse (s.nameAt chosen).text = .ok (e.nameAt chosen) ∧
        ∃ evaluator evaluator' : Evaluator,
          compiler source = .ok evaluator ∧ compiler (s.nameAt chosen).text = .ok evaluator' ∧
          ∀ context, evaluator' context = evaluator context := by
  have heval : ∀ (e : Expression) (chosen : Nat → Bool) (context : Json),
      (e.nameAt chosen).eval context = e.eval context :=
    fun e chosen => follow_changeAt_named chosen e.accessors
  refine ⟨heval, fun source e hparse => ⟨?_, ?_⟩⟩
  · obtain ⟨s, hs, -⟩ := parse_eq_ok_iff_spelling.1 hparse
    exact ⟨s, hs⟩
  · rintro s rfl
    obtain rfl : s.expression = e :=
      Except.ok.inj ((parse_eq_ok_iff_spelling.2 ⟨s, rfl, rfl⟩).symm.trans hparse)
    refine ⟨rfl, fun chosen => ?_⟩
    have hnamed : parse (s.nameAt chosen).text = .ok (s.expression.nameAt chosen) :=
      parse_eq_ok_iff_spelling.2 ⟨s.nameAt chosen, rfl, s.expression_nameAt chosen⟩
    refine ⟨hnamed, s.expression.evaluator, (s.expression.nameAt chosen).evaluator, ?_, ?_, ?_⟩
    · rw [compiler, hparse]
    · rw [compiler, hnamed]
    · intro context
      rw [evaluator, evaluator, heval]

/-- An index with blanks and leading zeros is named, while the brackets in the quoted name before it
are none of an index.

**Proof sketch.** The source is written as a `Spelling`, piece by piece, so that its accessors and
the text in which the index is named are computed; `eval_nameAt` gives the rest. -/
theorem eval_nameAt_leading_zeros :
    parse "m['[1]'] [ 007 ]" = .ok ⟨.model, [.member "[1]", .index 7]⟩ ∧
      parse "m['[1]'] ['7']" = .ok ⟨.model, [.member "[1]", .member "7"]⟩ ∧
      ∃ evaluator evaluator' : Evaluator,
        compiler "m['[1]'] [ 007 ]" = .ok evaluator ∧ compiler "m['[1]'] ['7']" = .ok evaluator' ∧
        ∀ context, evaluator' context = evaluator context := by
  have hnone : Blanks [] := by simp [Blanks]
  have hblank : Blanks [' '] := by
    simp only [Blanks, List.forall_mem_singleton]
    decide
  have hname : Quotes '\x27' ['[', '1', ']'] ['[', '1', ']'] := quotes_self (by simp)
  have hquoted : (Accessor.member "[1]").Spells ['[', '\x27', '[', '1', ']', '\x27', ']'] :=
    .brackets hnone (.name (.inl rfl) hname) hnone
  have hdigits : ∀ c ∈ ['0', '0', '7'], c.isDigit = true := by simp
  have hindex : (Accessor.index 7).Spells ['[', ' ', '0', '0', '7', ' ', ']'] :=
    .brackets hblank (.digits (List.cons_ne_nil _ _) hdigits (by decide)) hblank
  let s : Spelling :=
    ⟨[], .model, [⟨_, [], _, hnone, hquoted⟩, ⟨_, [' '], _, hblank, hindex⟩], [], hnone, hnone⟩
  have hsource : s.text = "m['[1]'] [ 007 ]" := rfl
  have hparse : parse "m['[1]'] [ 007 ]" = .ok s.expression :=
    parse_eq_ok_iff_spelling.2 ⟨s, hsource, rfl⟩
  have hnamed : (s.nameAt fun _ => true).text = "m['[1]'] ['7']" := rfl
  obtain ⟨hresult, hcompile⟩ :=
    ((eval_nameAt.2 _ _ hparse).2 s hsource).2 fun _ => true
  rw [hnamed] at hresult hcompile
  exact ⟨hparse, hresult, hcompile⟩

end Remap.Expression
