import Remap.Expression.Source
import Remap.Request.Error
import Remap.Text.Dotted

set_option relaxedAutoImplicit false
set_option autoImplicit false

/-!
# Placeholders

A string of a spec that consists of one pair of braces with something between them is a
placeholder. What stands between the braces must be a dotted path. Behind `$.` the path starts at
the context; otherwise it starts at the part of the incoming request that has the name of the part
in which the placeholder stands.

## Main definitions

* `Remap.Request.braced?` — the text between braces.
* `Remap.Request.Placeholder` — a dotted path with its starting point.
* `Remap.Request.Placeholder.parse` — the placeholder of a token.
* `Remap.Request.Placeholder.expression` — the expression that a placeholder stands for.
-/

namespace Remap.Request

/-- The text between an opening brace at the start and a closing brace at the end, if there is some
and no closing brace is in it. -/
def braced? (s : List Char) : Option (List Char) :=
  match s with
  | '{' :: rest =>
    if rest.getLast? = some '}' then
      let inner := rest.dropLast
      if inner = [] ∨ '}' ∈ inner then none else some inner
    else none
  | _ => none

/-- Whether a string of a spec is taken for a placeholder. -/
def isPlaceholder (s : String) : Bool :=
  (braced? s.toList).isSome

/-- Whether the string is taken for a placeholder and holds no second opening brace. -/
def isSinglePlaceholder (s : String) : Bool :=
  match braced? s.toList with
  | some inner => !inner.contains '{'
  | none => false

/-- Whether the characters form a segment of a path: a letter, then letters, digits, hyphens and
underscores, all of them ASCII. -/
def isSegment : List Char → Bool
  | [] => false
  | first :: rest => first.isAlpha && rest.all fun c => c.isAlphanum || c = '-' || c = '_'

/-- A placeholder. -/
structure Placeholder where
  /-- Whether the path starts at the context. -/
  contextRelative : Bool
  /-- The names between the dots. -/
  segments : List String
  deriving DecidableEq, Repr

namespace Placeholder

/-- The mark of a path that starts at the context, and the rest of the path. -/
def splitMark (path : List Char) : Bool × List Char :=
  match path with
  | '$' :: '.' :: rest => (true, rest)
  | _ => (false, path)

/-- The placeholder of a path. -/
def ofPath? (path : List Char) : Option Placeholder :=
  let (contextRelative, body) := splitMark path
  let segments := Text.splitDots body
  if segments.all isSegment then some ⟨contextRelative, segments.map String.ofList⟩ else none

/-- The placeholder of a token. The error holds the whole token where it is not in braces, and what
is between the braces where that is no path. -/
def parse (token : String) : Except TemplateError Placeholder :=
  match braced? token.toList with
  | none => .error (.invalidPlaceholder token)
  | some inner =>
    match ofPath? inner with
    | some placeholder => .ok placeholder
    | none => .error (.invalidPlaceholder (String.ofList inner))

/-- The path of a placeholder as it stands between the braces. -/
def path (p : Placeholder) : String :=
  (if p.contextRelative then "$." else "") ++ Text.dotted p.segments

/-- The names that lead from the context to the value of a placeholder in the given part. -/
def names (p : Placeholder) (part : String) : List String :=
  if p.contextRelative then p.segments else "request" :: part :: p.segments

/-- The expression that the placeholder stands for in the given part. -/
def expression (p : Placeholder) (part : String) : Expression :=
  ⟨if p.contextRelative then .rootModel else .model, (p.names part).map .member⟩

end Placeholder

end Remap.Request
