import Remap.Expression.Grammar
import Remap.Text.Decimal

set_option relaxedAutoImplicit false
set_option autoImplicit false

/-!
# Source of a path expression

An expression is written without blanks: a member as `.name` where the name is an identifier and
as a quoted name in brackets where it is not, an index by its digits in brackets.

## Main definitions

* `Remap.Expression.source` — the source text of an expression.
-/

namespace Remap.Expression

/-- The characters of a name between single quotes: a quote and a backslash take a backslash before
them. -/
def escapeName : List Char → List Char
  | [] => []
  | c :: rest =>
    if c = '\x27' ∨ c = '\\' then '\\' :: c :: escapeName rest else c :: escapeName rest

/-- The source of one step. -/
def Accessor.source : Accessor → List Char
  | .member name =>
    if isIdentifier name.toList then '.' :: name.toList
    else ['[', '\x27'] ++ escapeName name.toList ++ ['\x27', ']']
  | .index position => '[' :: Nat.toDigits 10 position.toNat ++ [']']

/-- The source text of an expression. -/
def source (e : Expression) : String :=
  String.ofList (e.root.source ++ e.accessors.flatMap Accessor.source)

end Remap.Expression
