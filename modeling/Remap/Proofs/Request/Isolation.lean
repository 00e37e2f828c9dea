import Remap.Proofs.Request.Compilation
import Remap.Proofs.Request.Evaluation
import Remap.Proofs.Request.Translation

set_option relaxedAutoImplicit false
set_option autoImplicit false

/-!
# Isolation of parts

A part of the outgoing request is made of the part of the spec with its name, and of nothing else in
the spec. Placeholders in it read the part of the incoming request with the same name, unless they
start at the context. So without such placeholders nothing else in the context shows in the part,
either. The method and the URI are exempt: the method is taken over from the incoming request, and
the URI reads its parameters.

## Main definitions

* `Remap.Request.PartRelative` — values in which no placeholder starts at the context.

## Main results

* `Remap.Request.Template.member?_evaluate` — what a part of the outgoing request is made of.
* `Remap.Request.denotePart_congr` — what a part denotes depends on the same part of the context.
* `Remap.Request.Template.member?_evaluate_congr` — equal parts of two specs give equal parts of the
  requests.
-/

namespace Remap.Request

/-- No placeholder in the value starts at the context. -/
def PartRelative (value : Json) : Prop :=
  ∀ leaf ∈ leaves value, ∀ token, leaf.value = .string token → isPlaceholder token = true →
    ¬['{', '$', '.'] <+: token.toList

/-! ## Placeholders -/

/-- The token of a placeholder that starts at the context starts with the mark. -/
theorem Placeholder.prefix_of_parse {token : String} {p : Placeholder}
    (h : parse token = .ok p) (hmark : p.contextRelative = true) :
    ['{', '$', '.'] <+: token.toList := by
  obtain ⟨inner, ⟨htoken, -, -⟩, hspells⟩ := parse_eq_ok_iff.1 h
  rw [htoken, hspells.eq_path, toList_path, if_pos hmark]
  exact ⟨(Text.dotted p.segments).toList ++ ['}'], rfl⟩

/-- Any other placeholder goes on from what its part of the incoming request holds. -/
theorem Placeholder.evaluator_expression {p : Placeholder} (hmark : p.contextRelative = false)
    (part : String) (context : Json) :
    (p.expression part).evaluator context =
      (Expression.evaluator ⟨.model, [.member "request", .member part]⟩ context).bind
        (Expression.evaluator ⟨.model, p.segments.map .member⟩) := by
  rw [expression, names, hmark]
  exact Expression.evaluator_append .model [.member "request", .member part] _ context

section Contexts

variable {part : String} {context context' : Json}
  (hread : Expression.evaluator ⟨.model, [.member "request", .member part]⟩ context =
    Expression.evaluator ⟨.model, [.member "request", .member part]⟩ context')

include hread

/-- A token that does not start at the context has the same value in contexts with the same part. -/
theorem denoteToken_congr {token : String} (htoken : ¬['{', '$', '.'] <+: token.toList) :
    denoteToken Expression.compiler part context token =
      denoteToken Expression.compiler part context' token := by
  cases hparse : Placeholder.parse token with
  | error e => simp only [denoteToken, hparse]
  | ok p =>
    have hmark : p.contextRelative = false := by
      rw [Bool.eq_false_iff]
      exact fun hmark => htoken (Placeholder.prefix_of_parse hparse hmark)
    simp only [denoteToken, hparse, Expression.compiler_source]
    rw [Placeholder.evaluator_expression hmark, Placeholder.evaluator_expression hmark, hread]

/-- The leaves of a part without placeholders that start at the context have the same values in
contexts with the same part. -/
theorem denoteLeaf_congr {value : Json} (hvalue : PartRelative value) {leaf : Leaf}
    (hleaf : leaf ∈ leaves value) :
    denoteLeaf Expression.compiler part context leaf.value =
      denoteLeaf Expression.compiler part context' leaf.value := by
  cases htext : leaf.value with
  | string text =>
    rw [denoteLeaf, denoteLeaf]
    by_cases htoken : isPlaceholder text = true
    · rw [if_pos htoken, if_pos htoken]
      exact denoteToken_congr hread (hvalue leaf hleaf text htext htoken)
    · rw [if_neg htoken, if_neg htoken]
  | _ => rfl

/-- **A part without placeholders that start at the context denotes the same in contexts with the
same part**, if it is neither the method nor the URI. -/
theorem denotePart_congr (hmethod : part ≠ "method") (huri : part ≠ "uri") {value : Json}
    (hvalue : PartRelative value) :
    denotePart Expression.compiler context part value =
      denotePart Expression.compiler context' part value := by
  by_cases hnull : value = .null
  · subst hnull
    rfl
  · rw [denotePart_of_ne_null _ _ _ hnull, denotePart_of_ne_null _ _ _ hnull, if_neg hmethod,
      if_neg hmethod, if_neg huri, if_neg huri,
      denote_congr fun leaf hleaf => denoteLeaf_congr hread hvalue hleaf]

end Contexts

/-! ## Templates -/

namespace Template

/-- **A part of the outgoing request is what the part of the spec with its name denotes**; it is
missing where that denotes nothing, and where the spec has no such part. -/
theorem member?_evaluate {compiler : Compiler} {spec : Json} (hspec : spec.WellFormed)
    {t : Template} (h : compileWith compiler spec = .ok t) (context : Json) {part : String}
    (hmethod : part ≠ "method") :
    (t.evaluate context).member? part =
      (spec.member? part).bind (denotePart compiler context part) := by
  obtain ⟨parts, rfl, hparts⟩ := compileWith_eq_ok_iff.1 h
  have hnames := (Json.wellFormed_object_iff.1 hspec).1
  rw [evaluate_eq_denoteRequest hspec hparts context, Json.member?, Json.member?]
  cases hvalue : Members.get? parts part with
  | none =>
    rw [denoteRequest, get?_foldl_addPart_of_not_mem _ _ (Members.get?_eq_none_iff.1 hvalue),
      get?_denoteSeed context hmethod, Option.bind_none]
  | some value =>
    rw [get?_denoteRequest _ _ hnames (Members.mem_of_get? hvalue), get?_denoteSeed context hmethod,
      Option.or_none, Option.bind_some]

/-- **Parts are isolated from each other.** Take two specs that hold the same at a part other than
the method and the URI, with no placeholder there that starts at the context, and two contexts in
which reading that part of the incoming request gives the same, be it nothing. Then the two outgoing
requests hold the same at the part, the order of members included, or neither of them has it.
Whatever else differs between the specs and between the contexts does not show there.

**Proof sketch.** A part of the request is what the part of the spec denotes (`member?_evaluate`).
Its placeholders go on from the same part of the incoming request, whatever characters the name of
the part is made of (`Placeholder.evaluator_expression`), so by induction on the tree it denotes the
same in both contexts (`denotePart_congr`). -/
theorem member?_evaluate_congr {part : String} (hmethod : part ≠ "method") (huri : part ≠ "uri")
    {spec spec' : Json} (hspec : spec.WellFormed) (hspec' : spec'.WellFormed) {t t' : Template}
    (h : compile spec = .ok t) (h' : compile spec' = .ok t')
    (hsame : spec.member? part = spec'.member? part)
    (hrelative : ∀ value, spec.member? part = some value → PartRelative value)
    {context context' : Json}
    (hread : Expression.evaluator ⟨.model, [.member "request", .member part]⟩ context =
      Expression.evaluator ⟨.model, [.member "request", .member part]⟩ context') :
    (t.evaluate context).member? part = (t'.evaluate context').member? part := by
  rw [member?_evaluate hspec h context hmethod, member?_evaluate hspec' h' context' hmethod,
    ← hsame]
  cases hvalue : spec.member? part with
  | none => rfl
  | some value => exact denotePart_congr hread hmethod huri (hrelative value hvalue)

/-- A part with a dot and a quote in its name, beside a part that reads from the context, and
contexts that differ in everything else.

**Proof sketch.** Both specs compile, because a compiler that accepts every source compiles them
(`exists_compile_of_compileWith`). Of the three leaves of the part two are tokens, which start at
the part, and the null is none. -/
theorem member?_evaluate_congr_quoted_part :
    let part := "it's.0"
    let value := Json.object [("x", .string "{id}"), ("y", .array [.string "{gone}", .null])]
    let incoming := Json.object [("id", .bool true)]
    let context := Json.object [("request", .object [(part, incoming), ("body", .string "z")])]
    let context' := Json.object [("user", .null),
      ("request", .object [("method", .string "GET"), (part, incoming)])]
    ∃ t t' : Template,
      compile (.object [("body", .string "{$.request.body}"), (part, value)]) = .ok t ∧
      compile (.object [(part, value), ("uri", .string "{id}"), ("it's", .array [])]) = .ok t' ∧
      (t.evaluate context).member? part = (t'.evaluate context').member? part := by
  intro part value incoming context context'
  let anything : Compiler := fun _ => .ok fun _ => none
  have hspec : (Json.object
      [("body", .string "{$.request.body}"), (part, value)]).WellFormed := by
    simp [part, value, Members.keys, UInt64.size]
  have hspec' : (Json.object
      [(part, value), ("uri", .string "{id}"), ("it's", .array [])]).WellFormed := by
    simp [part, value, Members.keys, UInt64.size]
  obtain ⟨t, h⟩ := @exists_compile_of_compileWith anything _ hspec _ rfl
  obtain ⟨t', h'⟩ := @exists_compile_of_compileWith anything _ hspec' _ rfl
  refine ⟨t, t', h, h', ?_⟩
  refine member?_evaluate_congr (by decide) (by decide) hspec hspec' h h' rfl ?_ rfl
  rintro _ ⟨⟩ leaf hleaf token htoken -
  simp only [value, leaves, memberLeaves, itemLeaves, List.map_cons, List.map_nil,
    List.cons_append, List.nil_append, List.append_nil, List.mem_cons, List.not_mem_nil,
    or_false] at hleaf
  rcases hleaf with rfl | rfl | rfl
  · obtain rfl := Json.string.inj htoken
    decide
  · obtain rfl := Json.string.inj htoken
    decide
  · simp [Leaf.under] at htoken

end Template

end Remap.Request
