import Remap.Expression.Parser

set_option relaxedAutoImplicit false
set_option autoImplicit false

/-!
# Compilers of expressions

Request templates do not look into expressions: they hand the source to a compiler once and keep the
evaluator that it returns.

## Main definitions

* `Remap.Evaluator` — from a context to a value, or to none.
* `Remap.Compiler` — from source text to an evaluator, or to a message of what is wrong.
* `Remap.Expression.compiler` — the compiler of path expressions.

## Main results

* `Remap.Expression.evaluator_append` — an evaluator goes on from what its first steps find.
-/

namespace Remap

/-- A compiled expression; `none` where the expression yields no value. -/
abbrev Evaluator := Json → Option Json

/-- Turns source text into an evaluator or says why it cannot. -/
abbrev Compiler := String → Except String Evaluator

namespace Expression

/-- The evaluator of a path expression; every evaluation error means that there is no value. -/
def evaluator (e : Expression) : Evaluator :=
  fun context => (e.eval context).toOption

/-- The evaluator of a path goes on from what the evaluator of its first steps finds. -/
theorem evaluator_append (root : Root) (front back : List Accessor) (context : Json) :
    evaluator ⟨root, front ++ back⟩ context =
      (evaluator ⟨root, front⟩ context).bind (evaluator ⟨root, back⟩) := by
  induction front generalizing context with
  | nil => rfl
  | cons accessor front ih =>
    rw [evaluator, evaluator, List.cons_append, eval_cons, eval_cons]
    cases accessor.step context with
    | ok next => exact ih next
    | error error => rfl

/-- The compiler of path expressions. -/
def compiler : Compiler :=
  fun source =>
    match parse source with
    | .ok e => .ok e.evaluator
    | .error error => .error error.message

end Expression

end Remap
