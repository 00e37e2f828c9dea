import Remap.Json.Basic
import Remap.Text.Decimal

set_option relaxedAutoImplicit false
set_option autoImplicit false

/-!
# Path expressions

A path expression starts at the context and steps into it, member by member and index by index. An
array may also be stepped into by a member name that names an index, and an object by an index,
which stands for the member named by its decimal digits.

## Main definitions

* `Remap.Expression` — a root and the steps from it.
* `Remap.Expression.eval` — the value that an expression reaches in a context.

## Main results

* `Remap.Expression.eval_cons` — evaluation takes the first step and goes on from there.
-/

namespace Remap

namespace Expression

/-- The symbol that an expression starts from. Both stand for the context. -/
inductive Root where
  /-- `rm`, the whole context. -/
  | rootModel
  /-- `m`, the current model, which at the outermost level is the context. -/
  | model
  deriving DecidableEq, Repr

/-- One step of an expression. -/
inductive Accessor where
  | member (name : String)
  | index (position : UInt64)
  deriving DecidableEq, Repr

/-- Why an expression reaches no value. -/
inductive EvalError where
  | missingField
  | indexOutOfBounds
  | notAContainer
  deriving DecidableEq, Repr

end Expression

/-- A path expression. -/
structure Expression where
  root : Expression.Root
  accessors : List Expression.Accessor
  deriving DecidableEq, Repr

namespace Expression

/-- The member of an object. -/
def memberOf (members : Members) (name : String) : Except EvalError Json :=
  match members.get? name with
  | some value => .ok value
  | none => .error .missingField

/-- The item of an array. -/
def itemOf (items : List Json) (position : UInt64) : Except EvalError Json :=
  match items[position.toNat]? with
  | some value => .ok value
  | none => .error .indexOutOfBounds

/-- The member of an object is the value found at its name. -/
theorem memberOf_eq_ok_iff {members : Members} {name : String} {value : Json} :
    memberOf members name = .ok value ↔ members.get? name = some value := by
  rw [memberOf]
  cases members.get? name <;> simp

/-- The item of an array is the value found at its position. -/
theorem itemOf_eq_ok_iff {items : List Json} {position : UInt64} {value : Json} :
    itemOf items position = .ok value ↔ items[position.toNat]? = some value := by
  rw [itemOf]
  cases items[position.toNat]? <;> simp

/-- Takes one step into a value. -/
def Accessor.step : Accessor → Json → Except EvalError Json
  | .member name, .object members => memberOf members name
  | .index position, .object members => memberOf members (Text.decimal position.toNat)
  | .index position, .array items => itemOf items position
  | .member name, .array items =>
    match Text.index? name with
    | some position => itemOf items position
    | none => .error .missingField
  | _, _ => .error .notAContainer

/-- Takes steps one after the other. -/
def follow : List Accessor → Json → Except EvalError Json
  | [], value => .ok value
  | accessor :: rest, value =>
    match accessor.step value with
    | .ok next => follow rest next
    | .error error => .error error

/-- Taking steps is taking the first one and then the others from there. -/
theorem follow_cons_eq_ok_iff {accessor : Accessor} {rest : List Accessor} {value target : Json} :
    follow (accessor :: rest) value = .ok target ↔
      ∃ next, accessor.step value = .ok next ∧ follow rest next = .ok target := by
  rw [follow]
  cases accessor.step value <;> simp

/-- The value that the expression reaches in the context. -/
def eval (e : Expression) (context : Json) : Except EvalError Json :=
  follow e.accessors context

/-- Evaluation takes the first step and goes on from there. -/
theorem eval_cons (root : Root) (accessor : Accessor) (rest : List Accessor) (context : Json) :
    eval ⟨root, accessor :: rest⟩ context =
      (accessor.step context).bind (eval ⟨root, rest⟩) := by
  simp only [eval, follow]
  cases accessor.step context <;> rfl

end Expression

end Remap
