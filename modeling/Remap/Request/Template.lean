import Remap.Request.Assignment

set_option relaxedAutoImplicit false
set_option autoImplicit false

/-!
# Request templates

A spec is an object whose members are the parts of the outgoing request. It is compiled once into
the assignments of its leaves; evaluating the template runs them in order over a request that starts
with the method of the incoming one.

Null parts are absent. The method is taken verbatim. The URI is either a single placeholder or a URI
template. Of the other parts those that are false, zero or the empty string count as absent, too.

## Main definitions

* `Remap.Request.Template` — a compiled spec.
* `Remap.Request.Template.compileWith`, `Remap.Request.Template.compile` — compiling a spec.
* `Remap.Request.Template.evaluate` — the outgoing request for a context.

## Main results

* `Remap.Request.Template.uriContent_eq_ok_cases`, `Remap.Request.Template.compileUri_eq_ok_iff`,
  `Remap.Request.Template.compilePart_eq_ok_cases`,
  `Remap.Request.Template.compileParts_cons_eq_ok_iff` — everything that the URI, a part and the
  parts of a spec can be compiled to.
-/

namespace Remap.Request

/-- A compiled spec. -/
structure Template where
  /-- The assignments in the order in which they run. -/
  assignments : List Assignment

namespace Template

/-- The assignment of the method, which is any value. -/
def compileMethod (spec value : Json) : Except TemplateError Assignment :=
  (Target.ofSegments ["method"] spec).map fun target => ⟨target, .literal value⟩

/-- The content of the URI: a single placeholder, or else a URI template. -/
def uriContent (compiler : Compiler) (text : String) : Except TemplateError Content :=
  if isSinglePlaceholder text then compileToken compiler "uri" text
  else
    match Uri.parse text with
    | .ok template => .ok (.uri template)
    | .error reason => .error (.invalidUriTemplate text reason)

/-- The URI is compiled as a token if it is a single one, and otherwise as a URI template. -/
theorem uriContent_eq_ok_cases {compiler : Compiler} {text : String} {content : Content}
    (h : uriContent compiler text = .ok content) :
    (isSinglePlaceholder text = true ∧ compileToken compiler "uri" text = .ok content) ∨
    (isSinglePlaceholder text = false ∧
      ∃ template, Uri.parse text = .ok template ∧ content = .uri template) := by
  rw [uriContent] at h
  by_cases htoken : isSinglePlaceholder text = true
  · rw [if_pos htoken] at h
    left; exact ⟨htoken, h⟩
  · rw [if_neg htoken] at h
    cases htemplate : Uri.parse text with
    | ok template =>
      rw [htemplate] at h
      right; exact ⟨Bool.eq_false_iff.2 htoken, template, rfl, (Except.ok.inj h).symm⟩
    | error reason => simp [htemplate] at h

/-- The assignment of the URI, which must be a string. -/
def compileUri (compiler : Compiler) (spec value : Json) : Except TemplateError Assignment :=
  match value with
  | .string text =>
    match Target.ofSegments ["uri"] spec with
    | .ok target => (uriContent compiler text).map fun content => ⟨target, content⟩
    | .error error => .error error
  | other => .error (.uriNotString other)

/-- The URI is compiled where it is a string, first its target and then its content. -/
theorem compileUri_eq_ok_iff {compiler : Compiler} {spec value : Json} {a : Assignment} :
    compileUri compiler spec value = .ok a ↔ ∃ text target content,
      value = .string text ∧ Target.ofSegments ["uri"] spec = .ok target ∧
        uriContent compiler text = .ok content ∧ a = ⟨target, content⟩ := by
  cases value with
  | string text =>
    cases htarget : Target.ofSegments ["uri"] spec with
    | ok target => simp [compileUri, htarget, map_eq_ok_iff, @eq_comm _ a]
    | error e => simp [compileUri, htarget]
  | _ => simp [compileUri]

/-- The assignments of one part of the spec. -/
def compilePart (compiler : Compiler) (spec : Json) (part : String) (value : Json) :
    Except TemplateError (List Assignment) :=
  match value with
  | .null => .ok []
  | _ =>
    if part = "method" then (compileMethod spec value).map fun assignment => [assignment]
    else if part = "uri" then (compileUri compiler spec value).map fun assignment => [assignment]
    else if value.isFalsy then .ok []
    else compileLeaves compiler spec value part

/-- A part that is not null is compiled by its name. -/
theorem compilePart_of_ne_null (compiler : Compiler) (spec : Json) (part : String) {value : Json}
    (h : value ≠ .null) :
    compilePart compiler spec part value =
      if part = "method" then (compileMethod spec value).map fun assignment => [assignment]
      else if part = "uri" then (compileUri compiler spec value).map fun assignment => [assignment]
      else if value.isFalsy then .ok []
      else compileLeaves compiler spec value part := by
  cases value with
  | null => exact absurd rfl h
  | _ => rfl

/-- Everything that a part can be compiled to: nothing, where it is null or counts as absent; one
assignment, under the names of the method and of the URI; or the assignments of its leaves.

**Proof sketch.** The tests of the compiler, one after the other. -/
theorem compilePart_eq_ok_cases {compiler : Compiler} {spec : Json} {part : String} {value : Json}
    {assignments : List Assignment} (h : compilePart compiler spec part value = .ok assignments) :
    (value = .null ∧ assignments = []) ∨
    (value ≠ .null ∧ part ≠ "method" ∧ part ≠ "uri" ∧ value.isFalsy = true ∧ assignments = []) ∨
    (value ≠ .null ∧ part = "method" ∧ ∃ a, compileMethod spec value = .ok a ∧
      assignments = [a]) ∨
    (value ≠ .null ∧ part = "uri" ∧ ∃ a, compileUri compiler spec value = .ok a ∧
      assignments = [a]) ∨
    (value ≠ .null ∧ part ≠ "method" ∧ part ≠ "uri" ∧ value.isFalsy = false ∧
      compileLeaves compiler spec value part = .ok assignments) := by
  by_cases hnull : value = .null
  · subst hnull
    obtain rfl := Except.ok.inj h
    left; exact ⟨rfl, rfl⟩
  right
  rw [compilePart_of_ne_null compiler spec part hnull] at h
  by_cases hmethod : part = "method"
  · rw [if_pos hmethod] at h
    obtain ⟨a, ha, rfl⟩ := map_eq_ok_iff.1 h
    right; left; exact ⟨hnull, hmethod, a, ha, rfl⟩
  rw [if_neg hmethod] at h
  by_cases huri : part = "uri"
  · rw [if_pos huri] at h
    obtain ⟨a, ha, rfl⟩ := map_eq_ok_iff.1 h
    right; right; left; exact ⟨hnull, huri, a, ha, rfl⟩
  rw [if_neg huri] at h
  by_cases hfalsy : value.isFalsy = true
  · rw [if_pos hfalsy] at h
    obtain rfl := Except.ok.inj h
    left; exact ⟨hnull, hmethod, huri, hfalsy, rfl⟩
  · rw [if_neg hfalsy] at h
    right; right; right; exact ⟨hnull, hmethod, huri, Bool.eq_false_iff.2 hfalsy, h⟩

/-- The assignments of parts in order; the first part that fails decides the error. -/
def compileParts (compiler : Compiler) (spec : Json) :
    Members → Except TemplateError (List Assignment)
  | [] => .ok []
  | (part, value) :: rest =>
    match compilePart compiler spec part value with
    | .ok assignments => (compileParts compiler spec rest).map (assignments ++ ·)
    | .error error => .error error

/-- The parts of a spec are compiled one after the other. -/
theorem compileParts_cons_eq_ok_iff {compiler : Compiler} {spec : Json} {part : String}
    {value : Json} {rest : Members} {assignments : List Assignment} :
    compileParts compiler spec ((part, value) :: rest) = .ok assignments ↔ ∃ own others,
      compilePart compiler spec part value = .ok own ∧
        compileParts compiler spec rest = .ok others ∧ assignments = own ++ others := by
  rw [compileParts]
  cases compilePart compiler spec part value with
  | ok own => simp [map_eq_ok_iff, @eq_comm _ assignments]
  | error e => simp

/-- Compiles a spec with the given compiler of expressions. -/
def compileWith (compiler : Compiler) (spec : Json) : Except TemplateError Template :=
  match spec with
  | .object parts => (compileParts compiler spec parts).map Template.mk
  | other => .error (.specNotObject other.kindName)

/-- Compiles a spec whose placeholders are path expressions. -/
def compile (spec : Json) : Except TemplateError Template :=
  compileWith Expression.compiler spec

/-- The request before any assignment has run: the method of the incoming request, if it has
one. -/
def seed (context : Json) : Members :=
  match (context.member? "request").bind (·.member? "method") with
  | some method => [("method", method)]
  | none => []

/-- Runs assignments in order over a request. -/
def runAll (assignments : List Assignment) (context : Json) (request : Members) : Members :=
  assignments.foldl (Assignment.run context) request

/-- The outgoing request for a context. -/
def evaluate (t : Template) (context : Json) : Json :=
  .object (runAll t.assignments context (seed context))

end Template

end Remap.Request
