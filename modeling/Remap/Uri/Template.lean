set_option relaxedAutoImplicit false
set_option autoImplicit false

/-!
# URI templates

A URI template is a sequence of literal texts and variables. A variable has an operator that says
how its value is inserted, and it may have a default value.

## Main definitions

* `Remap.Uri.Template`, `Remap.Uri.Part`, `Remap.Uri.Variable`, `Remap.Uri.Operator`.
* `Remap.Uri.Template.variables` — the variables of a template in order.

## Main results

* `Remap.Uri.Template.mem_variables_iff` — the variables are those among the parts.
-/

namespace Remap.Uri

/-- How the value of a variable is inserted. -/
inductive Operator where
  /-- Percent-encoded. -/
  | simple
  /-- As it is. -/
  | reserved
  /-- As an optional path segment: a slash and the percent-encoded value, or nothing. -/
  | segment
  deriving DecidableEq, Repr

/-- A variable of a template. -/
structure Variable where
  name : String
  operator : Operator
  /-- The value that stands in for a missing one. -/
  fallback : Option String
  deriving DecidableEq, Repr

/-- A part of a template. -/
inductive Part where
  | literal (text : String)
  | variable (value : Variable)
  deriving DecidableEq, Repr

/-- The variable that a part is, if it is one. -/
def Part.variable? : Part → Option Variable
  | .literal _ => none
  | .variable value => some value

/-- A URI template. -/
structure Template where
  parts : List Part
  deriving DecidableEq, Repr

/-- The variables of a template in order. -/
def Template.variables (t : Template) : List Variable :=
  t.parts.filterMap Part.variable?

/-- The variables of a template are those among its parts. -/
theorem Template.mem_variables_iff {t : Template} {v : Variable} :
    v ∈ t.variables ↔ .variable v ∈ t.parts := by
  rw [Template.variables, List.mem_filterMap]
  constructor
  · rintro ⟨part, hpart, hv⟩
    cases part with
    | literal text => cases hv
    | «variable» w =>
      obtain rfl := Option.some.inj hv
      exact hpart
  · exact fun hpart => ⟨_, hpart, rfl⟩

end Remap.Uri
