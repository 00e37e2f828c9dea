import Mathlib.Logic.Basic
import Remap.Json.Path

set_option relaxedAutoImplicit false
set_option autoImplicit false

/-!
# Values with the same content

Two values count as equal when they differ at most in the order of members and in the sign of zero:
objects are compared name by name, arrays item by item, integers and doubles each among themselves,
and the two zeros among the doubles are one number.

## Main definitions

* `Remap.Json.Number.SameValue`, `Remap.Json.SameContent` — the relations.

## Main results

* `Remap.Json.SameContent.refl`, `Remap.Json.SameContent.trans` — every value has the same content
  as itself, and two values have it that have that of a third.
* `Remap.Json.sameContent_object_iff`, `Remap.Json.sameContent_array_iff` — containers are compared
  by what is read from them.
-/

namespace Remap

namespace Json

/-- Both numbers are the same integer, or both are the same double or a zero. -/
inductive Number.SameValue : Number → Number → Prop
  | integer (value : Int) : SameValue (.integer value) (.integer value)
  | double (value : Binary64) : SameValue (.double value) (.double value)
  | zero {x y : Binary64} (hx : x.isZero = true) (hy : y.isZero = true) :
      SameValue (.double x) (.double y)

/-- Both values are equal up to the order of members and the sign of zero. -/
inductive SameContent : Json → Json → Prop
  | null : SameContent .null .null
  | bool (value : Bool) : SameContent (.bool value) (.bool value)
  | number {x y : Number} (h : x.SameValue y) : SameContent (.number x) (.number y)
  | string (value : String) : SameContent (.string value) (.string value)
  | array {xs ys : List Json} (hlength : xs.length = ys.length)
      (hitems : ∀ (position : Nat) (x y : Json), xs[position]? = some x → ys[position]? = some y →
        SameContent x y) : SameContent (.array xs) (.array ys)
  | object {ms ns : Members} (hnames : ∀ name, name ∈ ms.keys ↔ name ∈ ns.keys)
      (hvalues : ∀ name x y, ms.get? name = some x → ns.get? name = some y →
        SameContent x y) : SameContent (.object ms) (.object ns)

/-- A number has the same value as itself. -/
theorem Number.SameValue.refl : ∀ x : Number, x.SameValue x
  | .integer value => .integer value
  | .double value => .double value

/-- Numbers with the value of one number have the same value. -/
theorem Number.SameValue.trans {x y z : Number} (h : x.SameValue y) (h' : y.SameValue z) :
    x.SameValue z := by
  cases h with
  | integer value => exact h'
  | double value => exact h'
  | zero hx hy =>
    cases h' with
    | double => exact .zero hx hy
    | zero _ hz => exact .zero hx hz

/-- Of two numbers with the same value both are zero or none is. -/
theorem Number.SameValue.isZero_eq {x y : Number} (h : x.SameValue y) : x.isZero = y.isZero := by
  cases h with
  | integer | double => rfl
  | zero hx hy => exact hx.trans hy.symm

/-! ## An equivalence -/

mutual

/-- **A value has the same content as itself.** -/
theorem SameContent.refl : ∀ value : Json, value.SameContent value
  | .null => .null
  | .bool value => .bool value
  | .number value => .number (.refl value)
  | .string value => .string value
  | .array items => .array rfl fun position x y hx hy => by
      obtain rfl := Option.some.inj (hx.symm.trans hy)
      exact SameContent.refl_of_mem_items items x (List.mem_of_getElem? hx)
  | .object members => .object (fun _ => Iff.rfl) fun name x y hx hy => by
      obtain rfl := Option.some.inj (hx.symm.trans hy)
      exact SameContent.refl_of_mem_members members (name, x) (Members.mem_of_get? hx)

/-- Every item of an array has the same content as itself. -/
theorem SameContent.refl_of_mem_items : ∀ items : List Json, ∀ item ∈ items, item.SameContent item
  | [], item, h => absurd h List.not_mem_nil
  | first :: rest, item, h => by
    rcases List.mem_cons.1 h with heq | h
    · rw [heq]
      exact SameContent.refl first
    · exact SameContent.refl_of_mem_items rest item h

/-- The value of every member of an object has the same content as itself. -/
theorem SameContent.refl_of_mem_members :
    ∀ members : List (String × Json), ∀ member ∈ members, member.2.SameContent member.2
  | [], member, h => absurd h List.not_mem_nil
  | (name, value) :: rest, member, h => by
    rcases List.mem_cons.1 h with heq | h
    · rw [heq]
      exact SameContent.refl value
    · exact SameContent.refl_of_mem_members rest member h

end

/-- Two readings that agree find something or nothing together. -/
theorem SameContent.rel_eq_none_iff {x y : Option Json} (h : Option.Rel SameContent x y) :
    x = none ↔ y = none := by
  cases h <;> simp

/-- Objects have the same content where they have it at every name.

**Proof sketch.** A name is absent exactly where it leads to nothing (`Members.get?_eq_none_iff`),
so the same names on both sides are the same as nothing being found on both sides together. -/
theorem sameContent_object_iff {ms ns : Members} :
    SameContent (.object ms) (.object ns) ↔
      ∀ name, Option.Rel SameContent (ms.get? name) (ns.get? name) := by
  constructor
  · rintro (_ | _ | _ | _ | _ | ⟨hnames, hvalues⟩) name
    have hname := hnames name
    rw [← not_iff_not, ← Members.get?_eq_none_iff, ← Members.get?_eq_none_iff] at hname
    cases hx : ms.get? name with
    | none =>
      rw [hname.1 hx]
      exact .none
    | some x =>
      cases hy : ns.get? name with
      | none => exact absurd (hname.2 hy) (by simp [hx])
      | some y => exact .some (hvalues name x y hx hy)
  · intro h
    refine .object (fun name => ?_) fun name x y hx hy => ?_
    · rw [← not_iff_not, ← Members.get?_eq_none_iff, ← Members.get?_eq_none_iff]
      exact SameContent.rel_eq_none_iff (h name)
    · have hname := h name
      rw [hx, hy] at hname
      cases hname with
      | some hxy => exact hxy

/-- Arrays have the same content where they have it at every position.

**Proof sketch.** The length of an array is its first position without an item, so arrays that have
items at the same positions have one length, and the items are compared one by one. -/
theorem sameContent_array_iff {xs ys : List Json} :
    SameContent (.array xs) (.array ys) ↔
      ∀ position : Nat, Option.Rel SameContent xs[position]? ys[position]? := by
  constructor
  · rintro (_ | _ | _ | _ | ⟨hlength, hitems⟩ | _) position
    by_cases hlt : position < xs.length
    · have hx := List.getElem?_eq_getElem hlt
      have hy := List.getElem?_eq_getElem (hlength ▸ hlt)
      rw [hx, hy]
      exact .some (hitems position _ _ hx hy)
    · rw [List.getElem?_eq_none (Nat.le_of_not_lt hlt),
        List.getElem?_eq_none (hlength ▸ Nat.le_of_not_lt hlt)]
      exact .none
  · intro h
    refine .array ?_ fun position x y hx hy => ?_
    · -- The lengths are the first positions without an item.
      have hnone : ∀ position : Nat, xs[position]? = none ↔ ys[position]? = none :=
        fun position => SameContent.rel_eq_none_iff (h position)
      simp only [List.getElem?_eq_none_iff] at hnone
      exact Nat.le_antisymm ((hnone _).2 (Nat.le_refl _)) ((hnone _).1 (Nat.le_refl _))
    · have hposition := h position
      rw [hx, hy] at hposition
      cases hposition with
      | some hxy => exact hxy

/-- Values with the content of one value have the same content.

**Proof sketch.** By induction on the first agreement. In a container the middle value has an item
at each position of the first one, and a member under each of its names, so the agreement below it
can be continued there. -/
theorem SameContent.trans {x y z : Json} (h : x.SameContent y) (h' : y.SameContent z) :
    x.SameContent z := by
  induction h generalizing z with
  | null | bool | string => exact h'
  | number hxy =>
    cases h' with
    | number hyz => exact .number (hxy.trans hyz)
  | @array xs ys hlength _ ih =>
    cases h' with
    | @array _ zs hlength' hitems' =>
      refine .array (hlength.trans hlength') fun position a c ha hc => ?_
      have hlt : position < ys.length := hlength ▸ (List.getElem?_eq_some_iff.1 ha).1
      have hb := List.getElem?_eq_getElem hlt
      exact ih position a _ ha hb (hitems' position _ c hb hc)
  | @object ms ns hnames _ ih =>
    cases h' with
    | @object _ os hnames' hvalues' =>
      refine .object (fun name => (hnames name).trans (hnames' name)) fun name a c ha hc => ?_
      have hmem : name ∈ ns.keys :=
        (hnames name).1 (List.mem_map_of_mem (f := Prod.fst) (Members.mem_of_get? ha))
      cases hb : ns.get? name with
      | none => exact absurd hmem (Members.get?_eq_none_iff.1 hb)
      | some b => exact ih name a b ha hb (hvalues' name b c hb hc)

/-! ## Reading values with the same content -/

/-- What stands at a place has the same content as itself, if something stands there. -/
theorem SameContent.rel_refl (found : Option Json) : Option.Rel SameContent found found := by
  cases found with
  | none => exact .none
  | some value => exact .some (.refl value)

/-- A missing value counts as null on both sides. -/
theorem SameContent.getD {x y : Option Json} (h : Option.Rel SameContent x y) :
    (x.getD .null).SameContent (y.getD .null) := by
  cases h with
  | none => exact .null
  | some hxy => exact hxy

/-- Values with the same content are falsy together. -/
theorem SameContent.isFalsy_eq {x y : Json} (h : x.SameContent y) : x.isFalsy = y.isFalsy := by
  cases h with
  | number hxy => exact hxy.isZero_eq
  | _ => rfl

/-- An object has the same content as one that holds the same value at every name. -/
theorem sameContent_object_of_get?_eq {ms ns : Members}
    (hget : ∀ name, ms.get? name = ns.get? name) : SameContent (.object ms) (.object ns) := by
  refine sameContent_object_iff.2 fun name => ?_
  rw [hget]
  exact SameContent.rel_refl _

/-- Objects with the same content keep it when a member is updated to the same content. -/
theorem SameContent.update {ms ns : Members} (h : SameContent (.object ms) (.object ns))
    {name : String} {change change' : Json → Json}
    (hvalue : (change ((ms.get? name).getD .null)).SameContent
      (change' ((ns.get? name).getD .null))) :
    SameContent (.object (ms.update name change)) (.object (ns.update name change')) := by
  refine sameContent_object_iff.2 fun wanted => ?_
  by_cases hname : wanted = name
  · subst hname
    rw [Members.get?_update_self, Members.get?_update_self]
    exact .some hvalue
  · rw [Members.get?_update_of_ne _ _ hname, Members.get?_update_of_ne _ _ hname]
    exact sameContent_object_iff.1 h wanted

/-- Arrays with the same content keep it when an item is changed to the same content. -/
theorem SameContent.updateItem {xs ys : List Json} (h : SameContent (.array xs) (.array ys))
    {position : Nat} {change change' : Json → Json}
    (hitem : (change ((xs[position]?).getD .null)).SameContent
      (change' ((ys[position]?).getD .null))) :
    SameContent (.array (Json.updateItem xs position change))
      (.array (Json.updateItem ys position change')) := by
  refine sameContent_array_iff.2 fun wanted => ?_
  have hwanted := sameContent_array_iff.1 h wanted
  by_cases hposition : wanted = position
  · subst hposition
    rw [getElem?_updateItem_self, getElem?_updateItem_self]
    exact .some hitem
  · rw [getElem?_updateItem_of_ne _ _ hposition, getElem?_updateItem_of_ne _ _ hposition]
    by_cases hbefore : wanted < position
    · rw [if_pos hbefore, if_pos hbefore]
      exact .some (SameContent.getD hwanted)
    · rw [if_neg hbefore, if_neg hbefore]
      exact hwanted

/-! ## What a known content tells -/

/-- Only a string has the content of the string. -/
theorem SameContent.eq_string {value : Json} {text : String}
    (h : value.SameContent (.string text)) : value = .string text := by
  cases h
  rfl

/-- Only null has the content of null, on either side. -/
theorem SameContent.eq_null {value : Json} (h : SameContent .null value) : value = .null := by
  cases h
  rfl

/-- Objects with the same content have the same names. -/
theorem SameContent.mem_keys_iff {ms ns : Members} (h : SameContent (.object ms) (.object ns))
    {name : String} : name ∈ ms.keys ↔ name ∈ ns.keys := by
  obtain _ | _ | _ | _ | _ | ⟨hnames, -⟩ := h
  exact hnames name

/-- What has the content of an object has a value at each of its names, with the same content. -/
theorem SameContent.exists_get? {ms ns : Members} (h : SameContent (.object ms) (.object ns))
    {name : String} {y : Json} (hy : ns.get? name = some y) :
    ∃ x, ms.get? name = some x ∧ x.SameContent y := by
  have hname := sameContent_object_iff.1 h name
  rw [hy] at hname
  generalize ms.get? name = x at hname
  cases hname with
  | some hxy => exact ⟨_, rfl, hxy⟩

/-- What has the content of an array has an item at each of its positions, with the same content. -/
theorem SameContent.exists_getElem? {xs ys : List Json} (h : SameContent (.array xs) (.array ys))
    {position : Nat} {y : Json} (hy : ys[position]? = some y) :
    ∃ x, xs[position]? = some x ∧ x.SameContent y := by
  have hposition := sameContent_array_iff.1 h position
  rw [hy] at hposition
  generalize xs[position]? = x at hposition
  cases hposition with
  | some hxy => exact ⟨_, rfl, hxy⟩

end Json

end Remap
