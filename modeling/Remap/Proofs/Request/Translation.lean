import Remap.Proofs.Expression.RoundTrip
import Remap.Proofs.Request.Grammar
import Remap.Request.Assignment

set_option relaxedAutoImplicit false
set_option autoImplicit false

/-!
# Placeholders as expressions

A placeholder stands for the expression that steps through its names, from the context or from the
part of the incoming request in which it stands. The source that is written for it is read back as
just that expression, so the compiler of path expressions accepts every placeholder in every part,
and the value that it finds is the one that the names lead to.

## Main definitions

* `Remap.Expression.Reaches` — stepping through names leads from a value to a value.

## Main results

* `Remap.Expression.evaluator_eq_some_iff` — an evaluator finds what its names lead to.
* `Remap.Request.Placeholder.parse_source_expression` — what a placeholder is translated to.
-/

namespace Remap

namespace Expression

/-- `Reaches value names target` says that stepping through the names leads from the value to the
target: into an object by the name of a member, into an array by a name that reads as an index. -/
inductive Reaches : Json → List String → Json → Prop
  | here (value : Json) : Reaches value [] value
  | member {members : Members} {name : String} {names : List String} {child target : Json}
      (hchild : members.get? name = some child) (hrest : Reaches child names target) :
      Reaches (.object members) (name :: names) target
  | item {items : List Json} {name : String} {position : UInt64} {names : List String}
      {child target : Json} (hindex : Text.index? name = some position)
      (hchild : items[position.toNat]? = some child) (hrest : Reaches child names target) :
      Reaches (.array items) (name :: names) target

/-- Stepping into an object goes on from the member. -/
theorem reaches_object_iff {members : Members} {name : String} {names : List String}
    {target : Json} :
    Reaches (.object members) (name :: names) target ↔
      ∃ child, members.get? name = some child ∧ Reaches child names target := by
  constructor
  · rintro (_ | ⟨hchild, hrest⟩ | _)
    exact ⟨_, hchild, hrest⟩
  · rintro ⟨child, hchild, hrest⟩
    exact .member hchild hrest

/-- Stepping into an array by the digits of a position goes on from the item there. -/
theorem reaches_array_iff {items : List Json} {position : Nat} (hposition : position < UInt64.size)
    {names : List String} {target : Json} :
    Reaches (.array items) (Text.decimal position :: names) target ↔
      ∃ child, items[position]? = some child ∧ Reaches child names target := by
  obtain ⟨index, hindex, htoNat⟩ := Text.exists_index?_decimal hposition
  constructor
  · rintro (_ | _ | ⟨hindex', hchild, hrest⟩)
    obtain rfl := Option.some.inj (hindex.symm.trans hindex')
    rw [htoNat] at hchild
    exact ⟨_, hchild, hrest⟩
  · rintro ⟨child, hchild, hrest⟩
    rw [← htoNat] at hchild
    exact .item hindex hchild hrest

/-- From null there is nothing to reach but null. -/
theorem Reaches.eq_null {names : List String} {target : Json} (h : Reaches .null names target) :
    target = .null := by
  cases h
  rfl

/-- Stepping through names takes the step to the member of the first name and goes on from there. -/
theorem reaches_cons_iff {value : Json} {name : String} {names : List String} {target : Json} :
    Reaches value (name :: names) target ↔
      ∃ child, (Accessor.member name).step value = .ok child ∧ Reaches child names target := by
  constructor
  · rintro (_ | ⟨hchild, hrest⟩ | ⟨hindex, hchild, hrest⟩)
    · exact ⟨_, memberOf_eq_ok_iff.2 hchild, hrest⟩
    · refine ⟨_, ?_, hrest⟩
      simp only [Accessor.step, hindex]
      exact itemOf_eq_ok_iff.2 hchild
  · rintro ⟨child, hstep, hrest⟩
    cases value with
    | object members => exact .member (memberOf_eq_ok_iff.1 hstep) hrest
    | array items =>
      cases hindex : Text.index? name with
      | some position =>
        simp only [Accessor.step, hindex] at hstep
        exact .item hindex (itemOf_eq_ok_iff.1 hstep) hrest
      | none => simp [Accessor.step, hindex] at hstep
    | _ => simp [Accessor.step] at hstep

/-- Following members is stepping through their names. -/
theorem follow_member_eq_ok_iff {names : List String} {value target : Json} :
    follow (names.map .member) value = .ok target ↔ Reaches value names target := by
  induction names generalizing value with
  | nil =>
    constructor
    · intro h
      obtain rfl := Except.ok.inj h
      exact .here value
    · rintro ⟨⟩
      rfl
  | cons name names ih =>
    rw [List.map_cons, follow_cons_eq_ok_iff, reaches_cons_iff]
    exact exists_congr fun child => and_congr_right fun _ => ih

/-- The evaluator of a path of names finds a value where the names lead to it. -/
theorem evaluator_eq_some_iff {root : Root} {names : List String} {context value : Json} :
    evaluator ⟨root, names.map .member⟩ context = some value ↔ Reaches context names value := by
  rw [evaluator, eval, ← follow_member_eq_ok_iff]
  cases follow (names.map .member) context <;> simp [Except.toOption]

/-- The compiler accepts the source of every expression. -/
theorem compiler_source (e : Expression) : compiler e.source = .ok e.evaluator := by
  rw [compiler, parse_source]

end Expression

namespace Request.Placeholder

/-- The path of a spelled-out placeholder starts with the mark exactly when the placeholder starts
at the context. -/
theorem Spells.contextRelative_iff {p : Placeholder} {path : List Char} (h : p.Spells path) :
    p.contextRelative = true ↔ ∃ rest, p.path = "$." ++ rest := by
  constructor
  · intro hmark
    exact ⟨Text.dotted p.segments, by rw [Placeholder.path, if_pos hmark]⟩
  · rintro ⟨rest, hrest⟩
    have hsplit := h.splitMark
    rw [h.eq_path, hrest, String.toList_append] at hsplit
    exact (congrArg Prod.fst hsplit).symm

/-- **Translating a placeholder and reading the expression are inverse**, for every placeholder that
is read from a token and every part, whatever characters the name of the part is made of. The source
of the translation is read as the root `rm` and the names behind the mark, or as the root `m` and
`request`, the part and the names of the path. So compiling it with the compiler of path expressions
never fails, and its evaluator has a value exactly where these names lead to one.

**Proof sketch.** The token spells out the path between its braces (`parse_eq_ok_iff`), and the
segments of the path are what stands between its dots. The expression of the placeholder is a path
of names, and the source of an expression is read as that expression (`Expression.parse_source`);
its evaluator is described by `Expression.evaluator_eq_some_iff`. -/
theorem parse_source_expression {token : String} {p : Placeholder} (h : parse token = .ok p)
    (part : String) :
    token = "\x7b" ++ p.path ++ "\x7d" ∧
      ∃ root names,
        ((∃ rest, p.path = "$." ++ rest ∧ root = .rootModel ∧ names = Text.undotted rest) ∨
          ((¬∃ rest, p.path = "$." ++ rest) ∧ root = .model ∧
            names = "request" :: part :: Text.undotted p.path)) ∧
        Expression.parse (p.expression part).source = .ok ⟨root, names.map .member⟩ ∧
        ∃ evaluator,
          p.compile Expression.compiler part =
            .ok (.expression (p.expression part).source evaluator) ∧
          ∀ context,
            (∀ value, evaluator context = some value ↔
              Expression.Reaches context names value) ∧
            (evaluator context = none ↔ ∀ value, ¬Expression.Reaches context names value) := by
  obtain ⟨inner, ⟨htoken, -, -⟩, hspells⟩ := parse_eq_ok_iff.1 h
  refine ⟨?_, (p.expression part).root, p.names part, ?_, Expression.parse_source _,
    (p.expression part).evaluator, ?_, ?_⟩
  · rw [← String.toList_inj, htoken, hspells.eq_path, String.toList_append, String.toList_append]
    rfl
  · by_cases hmark : p.contextRelative = true
    · left
      refine ⟨Text.dotted p.segments, ?_, ?_, ?_⟩
      · rw [Placeholder.path, if_pos hmark]
      · rw [expression, if_pos hmark]
      · rw [names, if_pos hmark, hspells.undotted_dotted]
    · right
      refine ⟨fun hpath => hmark (hspells.contextRelative_iff.2 hpath), ?_, ?_⟩
      · rw [expression, if_neg hmark]
      · rw [names, if_neg hmark, Placeholder.path, if_neg hmark, String.empty_append,
          hspells.undotted_dotted]
  · rw [Placeholder.compile, Expression.compiler_source]
  · intro context
    refine ⟨fun value => Expression.evaluator_eq_some_iff, ?_⟩
    rw [Option.eq_none_iff_forall_ne_some]
    exact forall_congr' fun value => not_congr Expression.evaluator_eq_some_iff

/-- A path with a hyphen in a part whose name is made of quotes, brackets, dots, blanks and
backslashes. -/
theorem parse_source_expression_quoted_part :
    parse "{x-y.b}" = .ok ⟨false, ["x-y", "b"]⟩ ∧
      Expression.parse (expression ⟨false, ["x-y", "b"]⟩ "it's \\ ['a.b'] \"").source =
        .ok ⟨.model, [.member "request", .member "it's \\ ['a.b'] \"", .member "x-y",
          .member "b"]⟩ := by
  have htoken : parse "{x-y.b}" = .ok ⟨false, ["x-y", "b"]⟩ := by rfl
  refine ⟨htoken, ?_⟩
  obtain ⟨-, root, names, hnames, hparse, -⟩ :=
    parse_source_expression htoken "it's \\ ['a.b'] \""
  rw [hparse]
  rcases hnames with ⟨rest, hrest, -, -⟩ | ⟨-, rfl, rfl⟩
  · have hhead := congrArg (fun s => s.toList.head?) hrest
    simp only [String.toList_append] at hhead
    have hchar : some 'x' = some '$' := hhead
    exact absurd hchar (by decide)
  · rfl

end Request.Placeholder

end Remap
