import Remap.Expression.Compiler
import Remap.Request.Node
import Remap.Request.Target
import Remap.Uri.Expansion

set_option relaxedAutoImplicit false
set_option autoImplicit false

/-!
# Assignments

An assignment writes one leaf of a spec into the outgoing request: a literal as it is, a placeholder
with the value that its evaluator finds in the context, a URI template with its expansion. What has
no value is not written.

## Main definitions

* `Remap.Request.Content` — where the value of an assignment comes from.
* `Remap.Request.Assignment`, `Remap.Request.Assignment.run` — a compiled leaf, and writing it.
* `Remap.Request.Leaf.compile` — compiling a leaf.
* `Remap.Request.compileLeaves` — compiling all leaves of a value.

## Main results

* `Remap.Request.compileToken_eq_ok_iff`, `Remap.Request.Leaf.content_eq_ok_cases` — what tokens and
  leaves are compiled to.
-/

namespace Remap.Request

/-- Where the value of an assignment comes from. -/
inductive Content where
  | literal (value : Json)
  | expression (source : String) (evaluator : Evaluator)
  | uri (template : Uri.Template)

/-- The parameters of the incoming request, null if there are none. -/
def parameters (context : Json) : Json :=
  ((context.member? "request").bind (·.member? "params")).getD .null

/-- The value for a context. A URI that cannot be expanded has none. -/
def Content.value? (context : Json) : Content → Option Json
  | .literal value => some value
  | .expression _ evaluator => evaluator context
  | .uri template => ((template.expand (parameters context)).map Json.string).toOption

/-- A compiled leaf of a spec. -/
structure Assignment where
  target : Target
  content : Content

/-- Writes the value of the assignment, if it has one, into the request. -/
def Assignment.run (context : Json) (request : Members) (a : Assignment) : Members :=
  a.target.write (a.content.value? context) request

/-- The content of a placeholder that stands in the given part. -/
def Placeholder.compile (p : Placeholder) (compiler : Compiler) (part : String) :
    Except TemplateError Content :=
  let source := (p.expression part).source
  match compiler source with
  | .ok evaluator => .ok (.expression source evaluator)
  | .error message => .error (.invalidExpression source message)

/-- The content of a token that stands in the given part. -/
def compileToken (compiler : Compiler) (part token : String) : Except TemplateError Content :=
  match Placeholder.parse token with
  | .ok placeholder => placeholder.compile compiler part
  | .error error => .error error

/-- A token is compiled to the expression that it stands for. -/
theorem compileToken_eq_ok_iff {compiler : Compiler} {part token : String} {content : Content} :
    compileToken compiler part token = .ok content ↔
      ∃ p evaluator, Placeholder.parse token = .ok p ∧
        compiler (p.expression part).source = .ok evaluator ∧
        content = .expression (p.expression part).source evaluator := by
  cases hparse : Placeholder.parse token with
  | error e => simp [compileToken, hparse]
  | ok p =>
    cases hevaluator : compiler (p.expression part).source <;>
      simp [compileToken, hparse, Placeholder.compile, hevaluator, eq_comm]

/-- The content of a leaf that stands in the given part. -/
def Leaf.content (leaf : Leaf) (compiler : Compiler) (part : String) :
    Except TemplateError Content :=
  match Node.ofJson leaf.value with
  | .placeholder token => compileToken compiler part token
  | _ => .ok (.literal leaf.value)

/-- A leaf is compiled as a token if it is one, and otherwise to itself. -/
theorem Leaf.content_eq_ok_cases {leaf : Leaf} {compiler : Compiler} {part : String}
    {content : Content} (h : leaf.content compiler part = .ok content) :
    (∃ text, leaf.value = .string text ∧ isPlaceholder text = true ∧
      compileToken compiler part text = .ok content) ∨
    ((∀ text, leaf.value = .string text → isPlaceholder text = false) ∧
      content = .literal leaf.value) := by
  obtain ⟨path, value⟩ := leaf
  cases value with
  | string text =>
    simp only [Leaf.content, Node.ofJson] at h
    by_cases htoken : isPlaceholder text = true
    · rw [if_pos htoken] at h
      left; exact ⟨text, rfl, htoken, h⟩
    · rw [if_neg htoken] at h
      obtain rfl := Except.ok.inj h
      right; exact ⟨fun _ htext => Json.string.inj htext ▸ Bool.eq_false_iff.2 htoken, rfl⟩
  | _ =>
    obtain rfl := Except.ok.inj h
    right; exact ⟨by simp, rfl⟩

/-- The assignment of a leaf of a part of the spec. Its path is checked first, then the placeholder,
then the expression. -/
def Leaf.compile (leaf : Leaf) (compiler : Compiler) (spec : Json) (part : String) :
    Except TemplateError Assignment :=
  match Target.ofSegments (part :: leaf.path) spec with
  | .ok target => (leaf.content compiler part).map fun content => ⟨target, content⟩
  | .error error => .error error

/-- The assignments of all leaves under a value of the given part, in document order. -/
def compileLeaves (compiler : Compiler) (spec value : Json) (part : String) :
    Except TemplateError (List Assignment) :=
  (leaves value).mapM fun leaf => leaf.compile compiler spec part

end Remap.Request
