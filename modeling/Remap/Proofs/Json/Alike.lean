import Remap.Proofs.Json.SameContent

set_option relaxedAutoImplicit false
set_option autoImplicit false

/-!
# Values that are alike

Two values are alike when they differ at most in the order of members. This is said by what is read
from them: at the end of every path both hold the same scalar, both hold an array, both hold an
object, or both hold nothing. Unlike values with the same content, they agree in the sign of zero,
too.

## Main definitions

* `Remap.Json.surface` — what is seen of a value without looking into it.
* `Remap.Json.Alike` — equality up to the order of members.

## Main results

* `Remap.Json.Alike.update`, `Remap.Json.Alike.updateItem` — changes of one place that leave values
  that are alike there leave values that are alike.
* `Remap.Json.Alike.sameContent` — values that are alike have the same content.
-/

namespace Remap.Json

/-- A scalar itself; of a container, just the kind. -/
def surface : Json → Json
  | .array _ => .array []
  | .object _ => .object []
  | scalar => scalar

/-- What is seen at the end of a path that starts at a value, if there is one. -/
def surfaceAt (value : Option Json) (path : List Key) : Option Json :=
  (value.bind (·.atPath? path)).map surface

/-- The values are equal up to the order of members: the same is seen at the end of every path. -/
def Alike (x y : Json) : Prop :=
  ∀ path, surfaceAt (some x) path = surfaceAt (some y) path

/-- A value is alike to itself. -/
theorem Alike.refl (value : Json) : value.Alike value := fun _ => rfl

/-- Values that look the same are alike if the same is seen below each of their keys. -/
theorem alike_of_at? {x y : Json} (hsurface : x.surface = y.surface)
    (h : ∀ key path, surfaceAt (x.at? key) path = surfaceAt (y.at? key) path) : x.Alike y := by
  intro path
  cases path with
  | nil => exact congrArg some hsurface
  | cons key rest => exact h key rest

/-- An object is alike to one that holds the same value at every name. -/
theorem alike_object_of_get?_eq {ms ns : Members} (h : ∀ name, ms.get? name = ns.get? name) :
    Alike (.object ms) (.object ns) :=
  alike_of_at? rfl fun key path => congrArg (surfaceAt · path) (h key.name)

/-- Two updates of one member give objects that are alike if the new values are alike. -/
theorem Alike.update {members : Members} {name : String} {change change' : Json → Json}
    (h : (change ((members.get? name).getD .null)).Alike
      (change' ((members.get? name).getD .null))) :
    Alike (.object (members.update name change)) (.object (members.update name change')) := by
  refine alike_of_at? rfl fun key path => ?_
  simp only [at?]
  by_cases hname : key.name = name
  · rw [hname, Members.get?_update_self, Members.get?_update_self]
    exact h path
  · rw [Members.get?_update_of_ne _ _ hname, Members.get?_update_of_ne _ _ hname]

/-- Two changes of one item give arrays that are alike if the new items are alike. -/
theorem Alike.updateItem {items : List Json} {position : Nat} {change change' : Json → Json}
    (h : (change ((items[position]?).getD .null)).Alike
      (change' ((items[position]?).getD .null))) :
    Alike (.array (Json.updateItem items position change))
      (.array (Json.updateItem items position change')) := by
  refine alike_of_at? rfl fun key path => ?_
  cases key with
  | field name => rfl
  | index wanted =>
    simp only [at?]
    by_cases hwanted : wanted = position
    · rw [hwanted, getElem?_updateItem_self, getElem?_updateItem_self]
      exact h path
    · rw [getElem?_updateItem_of_ne _ _ hwanted, getElem?_updateItem_of_ne _ _ hwanted]

/-! ## The content of values that are alike -/

/-- Values that are alike have values that are alike below the same keys. -/
theorem Alike.at? {x y : Json} (h : x.Alike y) (key : Key) :
    Option.Rel Alike (x.at? key) (y.at? key) := by
  have hkey : ∀ path, surfaceAt (x.at? key) path = surfaceAt (y.at? key) path :=
    fun path => h (key :: path)
  generalize x.at? key = child at hkey
  generalize y.at? key = child' at hkey
  have hchild : child.map surface = child'.map surface := by
    simpa [surfaceAt, atPath?] using hkey []
  cases child with
  | none =>
    cases child' with
    | none => exact .none
    | some => simp at hchild
  | some =>
    cases child' with
    | none => simp at hchild
    | some => exact .some hkey

/-- Values that are alike look the same. -/
theorem Alike.surface_eq {x y : Json} (h : x.Alike y) : x.surface = y.surface :=
  Option.some.inj (h [])

/-- A scalar is alike to itself only. -/
theorem Alike.eq_of_scalar {x y : Json} (h : x.Alike y) (harray : ∀ items, x ≠ .array items)
    (hobject : ∀ members, x ≠ .object members) : x = y := by
  have hsurface := h.surface_eq
  cases x with
  | array items => exact absurd rfl (harray items)
  | object members => exact absurd rfl (hobject members)
  | _ => cases y <;> simp_all [surface]

mutual

/-- **Values that are alike have the same content.**

**Proof sketch.** By recursion on the first value. Containers that are alike show the same surface,
so the second one is of the same kind, and reading both at one name or position gives alike values
there, or nothing on either side. Scalars that are alike are equal. -/
theorem Alike.sameContent : ∀ {x y : Json}, x.Alike y → x.SameContent y
  | .object members, y, h => by
    cases y with
    | object others =>
      refine sameContent_object_iff.2 fun name => ?_
      have hname := h.at? (.field name)
      simp only [Json.at?, Key.name] at hname
      generalize hx : Members.get? members name = x at hname
      generalize Members.get? others name = y at hname
      cases hname with
      | none => exact .none
      | some hxy => exact .some (sameContent_of_mem_members members _ (Members.mem_of_get? hx) hxy)
    | _ => exact absurd h.surface_eq (by simp [surface])
  | .array items, y, h => by
    cases y with
    | array others =>
      refine sameContent_array_iff.2 fun position => ?_
      have hposition := h.at? (.index position)
      simp only [Json.at?] at hposition
      generalize hx : items[position]? = x at hposition
      generalize others[position]? = y at hposition
      cases hposition with
      | none => exact .none
      | some hxy => exact .some (sameContent_of_mem_items items _ (List.mem_of_getElem? hx) hxy)
    | _ => exact absurd h.surface_eq (by simp [surface])
  | .null, _, h => h.eq_of_scalar (by simp) (by simp) ▸ .null
  | .bool value, _, h => h.eq_of_scalar (by simp) (by simp) ▸ .bool value
  | .number value, _, h => h.eq_of_scalar (by simp) (by simp) ▸ .number (.refl value)
  | .string value, _, h => h.eq_of_scalar (by simp) (by simp) ▸ .string value

/-- What is alike to an item of an array has the content of that item. -/
theorem Alike.sameContent_of_mem_items : ∀ (items : List Json), ∀ item ∈ items, ∀ {y : Json},
    item.Alike y → item.SameContent y
  | [], item, h, _, _ => absurd h List.not_mem_nil
  | first :: rest, item, h, y, hy => by
    rcases List.mem_cons.1 h with heq | h
    · rw [heq] at hy ⊢
      exact Alike.sameContent hy
    · exact sameContent_of_mem_items rest item h hy

/-- What is alike to the value of a member has the content of that value. -/
theorem Alike.sameContent_of_mem_members : ∀ (members : List (String × Json)),
    ∀ member ∈ members, ∀ {y : Json}, member.2.Alike y → member.2.SameContent y
  | [], member, h, _, _ => absurd h List.not_mem_nil
  | (name, value) :: rest, member, h, y, hy => by
    rcases List.mem_cons.1 h with heq | h
    · rw [heq] at hy ⊢
      exact Alike.sameContent hy
    · exact sameContent_of_mem_members rest member h hy

end

end Remap.Json
