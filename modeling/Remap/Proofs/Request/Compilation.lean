import Remap.Proofs.Outcome
import Remap.Proofs.Request.Place
import Remap.Proofs.Request.Translation
import Remap.Request.Template

set_option relaxedAutoImplicit false
set_option autoImplicit false

/-!
# What can be wrong with a spec

Compiling a spec fails with the first fault in document order. What counts as a fault is said here
by relations on the tree: between the parts of a spec, the leaves of a part and the tokens among
them on the one hand, and the errors on the other.

## Main definitions

* `Remap.Request.TokenFault`, `Remap.Request.LeafFault`, `Remap.Request.UriFault`,
  `Remap.Request.PartFault` — what is wrong with a token, a leaf, the URI and a part.

## Main results

* `Remap.Request.Leaf.compile_eq_error_iff`, `Remap.Request.Template.compilePart_eq_error_iff` — a
  leaf and a part fail with their faults.
* `Remap.Request.Template.exists_compile_of_compileWith` — path expressions accept what any compiler
  accepts.
* `Remap.Request.Template.compileWith_outcome` — the outcome of compiling a spec.
-/

namespace Remap.Request

/-! ## Faults -/

/-- What is wrong with the text between the braces of a token in a part: it spells out no path, or
the compiler rejects the source that it is translated to. -/
inductive TokenFault (compiler : Compiler) (part : String) (inner : List Char) :
    TemplateError → Prop
  | noPath (h : ∀ p : Placeholder, ¬p.Spells inner) :
      TokenFault compiler part inner (.invalidPlaceholder (String.ofList inner))
  | rejected {p : Placeholder} (hspells : p.Spells inner) {message : String}
      (h : compiler (p.expression part).source = .error message) :
      TokenFault compiler part inner (.invalidExpression (p.expression part).source message)

/-- What is wrong with a leaf of a part: a name on its path is empty, that of the part included, or
else it is a text in braces with something wrong between them. -/
inductive LeafFault (compiler : Compiler) (part : String) (leaf : Leaf) : TemplateError → Prop
  | emptyName (h : "" ∈ part :: leaf.path) :
      LeafFault compiler part leaf (.invalidPath (Text.dotted (part :: leaf.path)) .emptySegment)
  | token (hnames : "" ∉ part :: leaf.path) {text : String} (htext : leaf.value = .string text)
      {inner : List Char} (hbraced : Braced text.toList inner) {e : TemplateError}
      (h : TokenFault compiler part inner e) : LeafFault compiler part leaf e

/-- What is wrong with the URI: it is no string; it is a text without braces between braces with
something wrong with it; or it is another string that is no URI template. -/
inductive UriFault (compiler : Compiler) : Json → TemplateError → Prop
  | notString {value : Json} (h : ∀ text, value ≠ .string text) :
      UriFault compiler value (.uriNotString value)
  | token {text : String} {inner : List Char} (hbraced : Braced text.toList inner)
      (hopen : '{' ∉ inner) {e : TemplateError} (h : TokenFault compiler "uri" inner e) :
      UriFault compiler (.string text) e
  | template {text : String} (hother : ¬∃ inner, Braced text.toList inner ∧ '{' ∉ inner)
      {reason : Uri.SyntaxError} (h : Uri.parse text = .error reason) :
      UriFault compiler (.string text) (.invalidUriTemplate text reason)

/-- What is wrong with a part of a spec: with the URI unless it is null, and with the first faulty
leaf of a part other than the method and the URI unless the part is falsy. -/
inductive PartFault (compiler : Compiler) : String × Json → TemplateError → Prop
  | uri {part : String} (huri : part = "uri") {value : Json} (hvalue : value ≠ .null)
      {e : TemplateError} (h : UriFault compiler value e) : PartFault compiler (part, value) e
  | leaf {part : String} (hmethod : part ≠ "method") (huri : part ≠ "uri") {value : Json}
      (hvalue : value.isFalsy = false) {e : TemplateError}
      (h : FirstFault (LeafFault compiler part) (leaves value) e) :
      PartFault compiler (part, value) e

/-! ## Tokens and leaves -/

/-- A placeholder is refused as the compiler refuses its source. -/
theorem Placeholder.compile_eq_error_iff {p : Placeholder} {compiler : Compiler} {part : String}
    {e : TemplateError} :
    p.compile compiler part = .error e ↔ ∃ message,
      compiler (p.expression part).source = .error message ∧
        e = .invalidExpression (p.expression part).source message := by
  rw [Placeholder.compile]
  cases compiler (p.expression part).source with
  | ok evaluator => simp
  | error message => simp [eq_comm]

/-- A token is refused for what is wrong between its braces.

**Proof sketch.** What is between the braces spells out a path, which is then the only one that it
spells out, or none. -/
theorem compileToken_eq_error_iff {compiler : Compiler} {part token : String} {inner : List Char}
    (hbraced : Braced token.toList inner) {e : TemplateError} :
    compileToken compiler part token = .error e ↔ TokenFault compiler part inner e := by
  cases hparse : Placeholder.parse token with
  | error e' =>
    obtain ⟨hnone, rfl⟩ := (Placeholder.parse_eq_error_iff hbraced).1 hparse
    simp only [compileToken, hparse]
    constructor
    · rintro h
      obtain rfl := Except.error.inj h
      exact .noPath hnone
    · rintro (_ | ⟨hspells, -⟩)
      · rfl
      · exact absurd hspells (hnone _)
  | ok p =>
    obtain ⟨inner', hbraced', hspells⟩ := Placeholder.parse_eq_ok_iff.1 hparse
    obtain rfl := hbraced.unique hbraced'
    simp only [compileToken, hparse, Placeholder.compile_eq_error_iff]
    constructor
    · rintro ⟨message, hmessage, rfl⟩
      exact .rejected hspells hmessage
    · rintro (hnone | @⟨p', hspells', message, hmessage⟩)
      · exact absurd hspells (hnone p)
      · obtain rfl := hspells.unique hspells'
        exact ⟨message, hmessage, rfl⟩

/-- The content of a leaf is refused for what is wrong with its token.

**Proof sketch.** Only a text in braces is a token, and the text between its braces is
determined. -/
theorem Leaf.content_eq_error_iff {compiler : Compiler} {part : String} {leaf : Leaf}
    {e : TemplateError} :
    leaf.content compiler part = .error e ↔
      ∃ text inner, leaf.value = .string text ∧ Braced text.toList inner ∧
        TokenFault compiler part inner e := by
  obtain ⟨path, value⟩ := leaf
  cases value with
  | string text =>
    simp only [Leaf.content, Node.ofJson]
    by_cases htoken : isPlaceholder text = true
    · obtain ⟨inner, hbraced⟩ := isPlaceholder_iff.1 htoken
      rw [if_pos htoken]
      simp only [compileToken_eq_error_iff hbraced]
      constructor
      · exact fun h => ⟨text, inner, rfl, hbraced, h⟩
      · rintro ⟨text', inner', htext, hbraced', h⟩
        obtain rfl := Json.string.inj htext
        rwa [hbraced.unique hbraced']
    · rw [if_neg htoken]
      constructor
      · simp
      · rintro ⟨text', inner, htext, hbraced, -⟩
        obtain rfl := Json.string.inj htext
        exact absurd (isPlaceholder_iff.2 ⟨inner, hbraced⟩) htoken
  | _ => simp [Leaf.content, Node.ofJson]

namespace Template

/-- The text of the URI is refused as a token or as a URI template.

**Proof sketch.** By whether the text is a single placeholder, with one constructor of the fault for
each case. -/
theorem uriContent_eq_error_iff {compiler : Compiler} {text : String} {e : TemplateError} :
    uriContent compiler text = .error e ↔ UriFault compiler (.string text) e := by
  rw [uriContent]
  by_cases htoken : isSinglePlaceholder text = true
  · obtain ⟨inner, hbraced, hopen⟩ := isSinglePlaceholder_iff.1 htoken
    rw [if_pos htoken, compileToken_eq_error_iff hbraced]
    constructor
    · exact .token hbraced hopen
    · rintro (hstring | ⟨hbraced', -, h⟩ | ⟨hother, -⟩)
      · exact absurd rfl (hstring text)
      · rwa [hbraced.unique hbraced']
      · exact absurd ⟨inner, hbraced, hopen⟩ hother
  · rw [if_neg htoken]
    rw [isSinglePlaceholder_iff] at htoken
    constructor
    · intro h
      cases hparse : Uri.parse text with
      | ok template => simp [hparse] at h
      | error reason =>
        rw [hparse] at h
        obtain rfl := Except.error.inj h
        exact .template htoken hparse
    · rintro (hstring | ⟨hbraced, hopen, -⟩ | ⟨-, hreason⟩)
      · exact absurd rfl (hstring text)
      · exact absurd ⟨_, hbraced, hopen⟩ htoken
      · rw [hreason]

/-- The URI is refused for its fault. -/
theorem compileUri_eq_error_iff {compiler : Compiler} {parts : Members}
    (hspec : (Json.object parts).WellFormed) {value : Json} (hpart : ("uri", value) ∈ parts)
    {e : TemplateError} :
    compileUri compiler (.object parts) value = .error e ↔ UriFault compiler value e := by
  cases value with
  | string text =>
    simp only [compileUri, ofSegments_part hspec hpart (by decide : "uri" ≠ ""), map_eq_error_iff,
      uriContent_eq_error_iff]
  | _ =>
    simp only [compileUri]
    constructor
    · intro h
      obtain rfl := Except.error.inj h
      exact .notString (by simp)
    · rintro ⟨-⟩
      rfl

end Template

/-! ## Parts -/

section Part

variable {compiler : Compiler} {parts : Members} {part : String} {value : Json}
  (hspec : (Json.object parts).WellFormed) (hpart : (part, value) ∈ parts)

include hspec hpart

/-- **A leaf of a spec is refused for its fault**: an empty name first, and then its token.

**Proof sketch.** The target of a leaf fails exactly where a name on its path is empty
(`ofSegments_names`); otherwise its content decides (`Leaf.content_eq_error_iff`). -/
theorem Leaf.compile_eq_error_iff {leaf : Leaf} (hleaf : leaf ∈ leaves value)
    {e : TemplateError} :
    leaf.compile compiler (.object parts) part = .error e ↔ LeafFault compiler part leaf e := by
  rw [leaves_eq_map_placedLeaves, List.mem_map] at hleaf
  obtain ⟨p, hp, rfl⟩ := hleaf
  have htarget := ofSegments_names hspec hpart hp
  simp only [Leaf.compile, show p.leaf.path = p.names from rfl, htarget]
  by_cases hempty : "" ∈ part :: p.names
  · rw [if_pos hempty]
    constructor
    · intro h
      obtain rfl := Except.error.inj h
      exact .emptyName hempty
    · rintro (_ | ⟨hnames, -, -, -⟩)
      · rfl
      · exact absurd hempty hnames
  · rw [if_neg hempty]
    simp only [map_eq_error_iff, Leaf.content_eq_error_iff]
    constructor
    · rintro ⟨text, inner, htext, hbraced, h⟩
      exact .token hempty htext hbraced h
    · rintro (hempty' | ⟨-, htext, hbraced, h⟩)
      · exact absurd hempty' hempty
      · exact ⟨_, _, htext, hbraced, h⟩

/-- The leaves of a part are refused for the first fault among them. -/
theorem Template.compileLeaves_eq_error_iff {e : TemplateError} :
    compileLeaves compiler (.object parts) value part = .error e ↔
      FirstFault (LeafFault compiler part) (leaves value) e := by
  rw [compileLeaves, mapM_eq_error_iff]
  exact firstFault_congr fun leaf hleaf e => Leaf.compile_eq_error_iff hspec hpart hleaf

/-- **A part is refused for its fault.**

**Proof sketch.** By the tests of the compiler, one after the other; behind each of them at most one
constructor of the fault is left. -/
theorem Template.compilePart_eq_error_iff {e : TemplateError} :
    compilePart compiler (.object parts) part value = .error e ↔
      PartFault compiler (part, value) e := by
  by_cases hnull : value = .null
  · subst hnull
    constructor
    · intro h
      simp [compilePart] at h
    · rintro (⟨-, hvalue, -⟩ | ⟨-, -, hvalue, -⟩)
      · exact absurd rfl hvalue
      · simp [Json.isFalsy] at hvalue
  rw [compilePart_of_ne_null compiler _ part hnull]
  by_cases hmethod : part = "method"
  · subst hmethod
    rw [if_pos rfl, compileMethod, ofSegments_part hspec hpart (by decide)]
    constructor
    · intro h
      simp [Except.map] at h
    · rintro (⟨huri, -, -⟩ | ⟨hmethod, -, -, -⟩)
      · exact absurd huri (by decide)
      · exact absurd rfl hmethod
  rw [if_neg hmethod]
  by_cases huri : part = "uri"
  · subst huri
    rw [if_pos rfl, map_eq_error_iff, compileUri_eq_error_iff hspec hpart]
    constructor
    · exact .uri rfl hnull
    · rintro (⟨-, -, h⟩ | ⟨-, huri, -, -⟩)
      · exact h
      · exact absurd rfl huri
  rw [if_neg huri]
  by_cases hfalsy : value.isFalsy = true
  · rw [if_pos hfalsy]
    constructor
    · simp
    · rintro (⟨huri', -, -⟩ | ⟨-, -, hvalue, -⟩)
      · exact absurd huri' huri
      · rw [hfalsy] at hvalue
        simp at hvalue
  · rw [if_neg hfalsy, compileLeaves_eq_error_iff hspec hpart]
    constructor
    · exact .leaf hmethod huri (Bool.eq_false_iff.2 hfalsy)
    · rintro (⟨huri', -, -⟩ | ⟨-, -, -, h⟩)
      · exact absurd huri' huri
      · exact h

end Part

namespace Template

/-- Parts are refused as the first of them that is. -/
theorem compileParts_eq_error_iff {compiler : Compiler} {spec : Json} {parts : Members}
    {e : TemplateError} :
    compileParts compiler spec parts = .error e ↔
      FirstFault (fun part e => compilePart compiler spec part.1 part.2 = .error e) parts e := by
  induction parts with
  | nil => simp [compileParts, not_firstFault_nil]
  | cons member rest ih =>
    obtain ⟨part, value⟩ := member
    rw [compileParts, firstFault_cons, ← ih]
    cases compilePart compiler spec part value with
    | error e' => simp
    | ok assignments => simp [map_eq_error_iff]

/-- **Compiling an object fails with the fault of its first faulty part.** -/
theorem compileWith_object_eq_error_iff {compiler : Compiler} {parts : Members}
    (hspec : (Json.object parts).WellFormed) {e : TemplateError} :
    compileWith compiler (.object parts) = .error e ↔
      FirstFault (PartFault compiler) parts e := by
  rw [compileWith, map_eq_error_iff, compileParts_eq_error_iff]
  exact firstFault_congr fun part hpart e => compilePart_eq_error_iff hspec hpart

/-- An object is compiled where nothing is wrong with its parts. -/
theorem exists_compileWith_object_iff {compiler : Compiler} {parts : Members}
    (hspec : (Json.object parts).WellFormed) :
    (∃ t, compileWith compiler (.object parts) = .ok t) ↔
      ∀ part ∈ parts, ∀ e, ¬PartFault compiler part e := by
  have hok : (∃ t, compileWith compiler (.object parts) = .ok t) ↔
      ¬∃ e, compileWith compiler (.object parts) = .error e := by
    cases compileWith compiler (.object parts) <;> simp
  rw [hok]
  simp only [compileWith_object_eq_error_iff hspec, exists_firstFault_iff]
  simp

end Template

/-! ## Outcomes -/

/-- Beside faults of tokens a part can only have an empty name, or a URI that is no string or no URI
template. -/
theorem PartFault.error_cases {compiler : Compiler} {part : String × Json} {e : TemplateError}
    (h : PartFault compiler part e) :
    (∃ path, e = .invalidPath path .emptySegment) ∨ (∃ value, e = .uriNotString value) ∨
      (∃ text reason, e = .invalidUriTemplate text reason) ∨
        ∃ inner, TokenFault compiler part.1 inner e := by
  rcases h with ⟨rfl, -, h⟩ | ⟨-, -, -, h⟩
  · rcases h with _ | ⟨-, -, h⟩ | _
    · right; left; exact ⟨_, rfl⟩
    · right; right; right; exact ⟨_, h⟩
    · right; right; left; exact ⟨_, _, rfl⟩
  · obtain ⟨front, leaf, back, -, -, h⟩ := h
    rcases h with _ | ⟨-, -, -, h⟩
    · left; exact ⟨_, rfl⟩
    · right; right; right; exact ⟨_, h⟩

/-- The only thing that can be wrong with the path of a part is an empty name. -/
theorem PartFault.eq_emptySegment {compiler : Compiler} {part : String × Json} {path : String}
    {reason : PathError} (h : PartFault compiler part (.invalidPath path reason)) :
    reason = .emptySegment := by
  rcases h.error_cases with ⟨path', hpath⟩ | ⟨value, hvalue⟩ | ⟨text, reason', htext⟩ | ⟨inner, h⟩
  · exact (TemplateError.invalidPath.inj hpath).2
  · simp at hvalue
  · simp at htext
  · rcases h

/-- The compiler of path expressions rejects no part. -/
theorem PartFault.ne_invalidExpression {part : String × Json} {source message : String} :
    ¬PartFault Expression.compiler part (.invalidExpression source message) := by
  intro h
  rcases h.error_cases with ⟨path, hpath⟩ | ⟨value, hvalue⟩ | ⟨text, reason, htext⟩ | ⟨inner, h⟩
  · simp at hpath
  · simp at hvalue
  · simp at htext
  · rcases h with _ | ⟨-, hmessage⟩
    rw [Expression.compiler_source] at hmessage
    simp at hmessage

/-- What the compiler of path expressions finds wrong with a token is wrong for every compiler. -/
theorem TokenFault.of_expression {part : String} {inner : List Char} {e : TemplateError}
    (h : TokenFault Expression.compiler part inner e) (compiler : Compiler) :
    TokenFault compiler part inner e := by
  cases h with
  | noPath hpath => exact .noPath hpath
  | rejected _ hmessage =>
    rw [Expression.compiler_source] at hmessage
    simp at hmessage

/-- A part that is faulty for the compiler of path expressions is faulty for every compiler. -/
theorem PartFault.exists_of_expression {part : String × Json} {e : TemplateError}
    (h : PartFault Expression.compiler part e) (compiler : Compiler) :
    ∃ e', PartFault compiler part e' := by
  cases h with
  | uri huri hvalue h =>
    refine ⟨e, .uri huri hvalue ?_⟩
    cases h with
    | notString hstring => exact .notString hstring
    | token hbraced hopen h => exact .token hbraced hopen (h.of_expression compiler)
    | template hother hparse => exact .template hother hparse
  | @leaf name hmethod huri value hvalue _ h =>
    -- Another compiler may find an earlier leaf to be faulty.
    have hleaf : ∃ leaf ∈ leaves value, ∃ e', LeafFault compiler name leaf e' := by
      obtain ⟨leaf, hmem, e', h⟩ := exists_firstFault_iff.1 ⟨e, h⟩
      refine ⟨leaf, hmem, e', ?_⟩
      cases h with
      | emptyName hempty => exact .emptyName hempty
      | token hnames htext hbraced h => exact .token hnames htext hbraced (h.of_expression compiler)
    obtain ⟨e', h⟩ := exists_firstFault_iff.2 hleaf
    exact ⟨e', .leaf hmethod huri hvalue h⟩

namespace Template

/-- The compiler of path expressions accepts every spec that some compiler accepts. -/
theorem exists_compile_of_compileWith {compiler : Compiler} {spec : Json} (hspec : spec.WellFormed)
    {t : Template} (h : compileWith compiler spec = .ok t) : ∃ t', compile spec = .ok t' := by
  cases spec with
  | object parts =>
    refine (exists_compileWith_object_iff hspec).2 fun part hpart e hfault => ?_
    obtain ⟨e', hfault'⟩ := hfault.exists_of_expression compiler
    exact (exists_compileWith_object_iff hspec).1 ⟨t, h⟩ part hpart e' hfault'
  | _ => simp [compileWith] at h

/-- **The outcome of compiling a spec**, for every value and every compiler of expressions. A value
that is no object is refused by its kind. An object is refused with the fault of its first faulty
part, in the order of the spec, which for a part with leaves is the fault of its first faulty leaf;
without a faulty part it is compiled. No other thing is ever wrong with a path than an empty name,
and the compiler of path expressions rejects no source.

**Proof sketch.** The path of a leaf leads to the leaf again when it is followed through the spec
(`stepsOf_names`), so nothing but an empty name can be wrong with it; the token of the leaf comes
next (`Leaf.compile_eq_error_iff`). Leaves and parts are compiled in order and the first error is
returned (`mapM_eq_error_iff`, `compileParts_eq_error_iff`). -/
theorem compileWith_outcome {compiler : Compiler} {spec : Json} (hspec : spec.WellFormed) :
    (∀ e, compileWith compiler spec = .error e ↔
      ((∀ parts, spec ≠ .object parts) ∧ e = .specNotObject spec.kindName) ∨
        ∃ parts, spec = .object parts ∧ FirstFault (PartFault compiler) parts e) ∧
    ((∃ t, compileWith compiler spec = .ok t) ↔
      ∃ parts, spec = .object parts ∧ ∀ part ∈ parts, ∀ e, ¬PartFault compiler part e) ∧
    (∀ path reason, compileWith compiler spec = .error (.invalidPath path reason) →
      reason = .emptySegment) ∧
    ∀ source message, compile spec ≠ .error (.invalidExpression source message) := by
  cases spec with
  | object parts =>
    refine ⟨fun e => ?_, ?_, ?_, ?_⟩
    · rw [compileWith_object_eq_error_iff hspec]
      constructor
      · exact fun h => .inr ⟨parts, rfl, h⟩
      · rintro (⟨hobject, -⟩ | ⟨parts', heq, h⟩)
        · exact absurd rfl (hobject parts)
        · obtain rfl := Json.object.inj heq
          exact h
    · simpa using exists_compileWith_object_iff hspec
    · intro path reason h
      obtain ⟨front, part, back, -, -, hpart⟩ := (compileWith_object_eq_error_iff hspec).1 h
      exact hpart.eq_emptySegment
    · intro source message h
      obtain ⟨front, part, back, -, -, hpart⟩ := (compileWith_object_eq_error_iff hspec).1 h
      exact hpart.ne_invalidExpression
  | _ => simp [compileWith, compile, eq_comm]

/-- An empty name below an array is found before the token that it leads to, and before the URI of a
later part. -/
theorem compileWith_outcome_empty_name :
    ∃ parts, parts = [("headers", .object [("a", .string "text")]),
        ("body", .array [.string "x", .object [("", .string "{a b}")]]), ("uri", .bool true)] ∧
      FirstFault (PartFault Expression.compiler) parts (.invalidPath "body.1." .emptySegment) := by
  refine Exists.imp (fun parts hparts => ⟨hparts, ?_⟩) ⟨_, rfl⟩
  have hspec : (Json.object parts).WellFormed := by simp [hparts, Members.keys, UInt64.size]
  have herror : compileWith Expression.compiler (.object parts) =
      .error (.invalidPath "body.1." .emptySegment) := by
    rw [hparts]
    rfl
  rcases ((compileWith_outcome hspec).1 _).1 herror with ⟨hobject, -⟩ | ⟨parts', heq, h⟩
  · exact absurd rfl (hobject parts)
  · obtain rfl := Json.object.inj heq
    exact h

end Template

end Remap.Request
