import Remap.Json.Writer
import Remap.Uri.Parser

set_option relaxedAutoImplicit false
set_option autoImplicit false

/-!
# Errors of request templates

Everything that can be wrong with a request spec is found when it is compiled. Evaluating a compiled
template never fails.

## Main definitions

* `Remap.Request.PathError` — what is wrong with a path into a request.
* `Remap.Request.TemplateError` — what is wrong with a spec, with its message.
-/

namespace Remap.Request

/-- Why a path does not lead into a request. -/
inductive PathError where
  | emptyPath
  | emptySegment
  | notAnIndex (segment : String)
  | outOfRange (index length : Nat)
  deriving DecidableEq, Repr

/-- The text of a path error. -/
def PathError.message : PathError → String
  | .emptyPath => "path is empty"
  | .emptySegment => "empty segment"
  | .notAnIndex segment => s!"'{segment}' is not an array index"
  | .outOfRange index length => s!"index {index} is out of range for an array of {length}"

/-- Why a spec is not a request template. -/
inductive TemplateError where
  /-- The spec is not an object but a value of the named kind. -/
  | specNotObject (found : String)
  /-- A text in braces is no placeholder. -/
  | invalidPlaceholder (text : String)
  /-- A path does not lead into the request. -/
  | invalidPath (path : String) (reason : PathError)
  /-- The compiler of expressions refuses the source of a placeholder. -/
  | invalidExpression (source message : String)
  /-- The text of the URI is no template. -/
  | invalidUriTemplate (text : String) (reason : Uri.SyntaxError)
  /-- The URI is not a string. -/
  | uriNotString (found : Json)

/-- The text of a template error. -/
def TemplateError.message : TemplateError → String
  | .specNotObject found => s!"Invalid template spec: expected an object but found {found}"
  | .invalidPlaceholder text => s!"Invalid template {text}"
  | .invalidPath path reason => s!"Invalid path '{path}': {reason.message}"
  | .invalidExpression source message => s!"Invalid expression '{source}': {message}"
  | .invalidUriTemplate text reason => s!"Invalid uri template '{text}': {reason.message}"
  | .uriNotString found => s!"Invalid uri: expected a string but found {found.compact}"

end Remap.Request
