import Remap.Json.Basic
import Remap.Text.Decimal

set_option relaxedAutoImplicit false
set_option autoImplicit false

/-!
# Positions inside a value

A key is a member name or a position in an array. A position also applies to an object, where it
stands for the member named by its decimal digits.

## Main definitions

* `Remap.Json.Key` — one step into a value.
* `Remap.Json.at?`, `Remap.Json.atPath?` — the value at a key and along a list of keys.
* `Remap.Json.updateItem` — changing an item of an array, which grows as far as needed.

## Main results

* `Remap.Json.atPath?_append` — reading along a path is reading along its parts.
* `Remap.Json.atPath?_eq_of_names_eq` — paths of the same names lead to the same value.
* `Remap.Json.getElem?_updateItem_self`, `Remap.Json.getElem?_updateItem_of_ne`,
  `Remap.Json.length_updateItem` — what a change of an item does.
* `Remap.Json.updateItem_updateItem_of_ne` — changes of different items commute.
-/

namespace Remap.Json

/-- One step into a value. -/
inductive Key where
  | field (name : String)
  | index (position : Nat)
  deriving DecidableEq, Repr

/-- The member name that a key stands for in an object. -/
def Key.name : Key → String
  | .field name => name
  | .index position => Text.decimal position

/-- The value at a key. -/
def at? : Json → Key → Option Json
  | .object members, key => Members.get? members key.name
  | .array items, .index position => items[position]?
  | _, _ => none

/-- The value along a list of keys. -/
def atPath? : Json → List Key → Option Json
  | value, [] => some value
  | value, key :: rest => (value.at? key).bind (·.atPath? rest)

/-- Reading along a path is reading along its parts. -/
theorem atPath?_append (value : Json) (front back : List Key) :
    value.atPath? (front ++ back) = (value.atPath? front).bind (·.atPath? back) := by
  induction front generalizing value with
  | nil => rfl
  | cons key rest ih =>
    simp only [List.cons_append, atPath?, Option.bind_assoc, ih]

/-- Nothing is below a falsy value. -/
theorem at?_eq_none_of_isFalsy {value : Json} (h : value.isFalsy = true) (key : Key) :
    value.at? key = none := by
  cases value with
  | array | object => simp [isFalsy] at h
  | _ => rfl

/-- Nothing is below a missing value, as if it were null. -/
theorem atPath?_getD_null (found : Option Json) {path : List Key} (h : path ≠ []) :
    (found.getD .null).atPath? path = found.bind (·.atPath? path) := by
  cases found with
  | some value => rfl
  | none =>
    obtain ⟨key, rest, rfl⟩ := List.exists_cons_of_ne_nil h
    rfl

/-- A missing value counts as null at every step of a path. -/
theorem getD_atPath?_cons (value : Json) (key : Key) (rest : List Key) :
    (value.atPath? (key :: rest)).getD .null =
      (((value.at? key).getD .null).atPath? rest).getD .null := by
  rw [atPath?]
  cases value.at? key with
  | some child => rfl
  | none => cases rest <;> rfl

/-- Keys of the same name that both lead somewhere lead to the same value. -/
theorem at?_eq_of_name_eq {value x y : Json} {key other : Key} (hname : key.name = other.name)
    (hx : value.at? key = some x) (hy : value.at? other = some y) : x = y := by
  cases value with
  | object members =>
    simp only [at?, hname] at hx hy
    exact Option.some.inj (hx.symm.trans hy)
  | array items =>
    cases key with
    | field name => simp [at?] at hx
    | index position =>
      cases other with
      | field name => simp [at?] at hy
      | index position' =>
        obtain rfl := Text.decimal_injective hname
        exact Option.some.inj (hx.symm.trans hy)
  | _ => simp [at?] at hx

/-- Paths of the same names that both lead somewhere lead to the same value. -/
theorem atPath?_eq_of_names_eq {value x y : Json} {path other : List Key}
    (hnames : path.map Key.name = other.map Key.name) (hx : value.atPath? path = some x)
    (hy : value.atPath? other = some y) : x = y := by
  induction path generalizing value other with
  | nil =>
    obtain rfl := List.map_eq_nil_iff.1 hnames.symm
    exact Option.some.inj (hx.symm.trans hy)
  | cons key rest ih =>
    obtain ⟨key', rest', rfl, hname, hrest⟩ := List.map_eq_cons_iff.1 hnames.symm
    obtain ⟨child, hchild, hx⟩ := Option.bind_eq_some_iff.1 hx
    obtain ⟨child', hchild', hy⟩ := Option.bind_eq_some_iff.1 hy
    obtain rfl := at?_eq_of_name_eq hname.symm hchild hchild'
    exact ih hrest.symm hx hy

/-- Changes the item at a position; missing items up to there are null. -/
def updateItem : List Json → Nat → (Json → Json) → List Json
  | [], 0, change => [change .null]
  | item :: rest, 0, change => change item :: rest
  | [], position + 1, change => .null :: updateItem [] position change
  | item :: rest, position + 1, change => item :: updateItem rest position change

/-- The changed item is found at its position. -/
theorem getElem?_updateItem_self (items : List Json) (position : Nat) (change : Json → Json) :
    (updateItem items position change)[position]? =
      some (change ((items[position]?).getD .null)) := by
  fun_induction updateItem items position change with
  | case1 => rfl
  | case2 item rest => rfl
  | case3 position _ ih => simpa using ih
  | case4 item rest position _ ih => simpa using ih

/-- Before the changed item every position holds what it held, or null; behind it nothing
changes. -/
theorem getElem?_updateItem_of_ne (items : List Json) {position other : Nat}
    (change : Json → Json) (h : other ≠ position) :
    (updateItem items position change)[other]? =
      if other < position then some ((items[other]?).getD .null) else items[other]? := by
  fun_induction updateItem items position change generalizing other with
  | case1 => cases other <;> simp_all
  | case2 item rest => cases other <;> simp_all
  | case3 position _ ih =>
    cases other with
    | zero => simp
    | succ other => simpa using ih (by omega)
  | case4 item rest position _ ih =>
    cases other with
    | zero => simp
    | succ other => simpa using ih (by omega)

/-- The array grows just as far as the position needs. -/
theorem length_updateItem (items : List Json) (position : Nat) (change : Json → Json) :
    (updateItem items position change).length = max items.length (position + 1) := by
  fun_induction updateItem items position change with
  | case1 => rfl
  | case2 item rest => simp only [List.length_cons]; omega
  | case3 position _ ih => simp only [List.length_cons, List.length_nil] at ih ⊢; omega
  | case4 item rest position _ ih => simp only [List.length_cons] at ih ⊢; omega

/-- Two changes of one item are one change. -/
theorem updateItem_updateItem (items : List Json) (position : Nat) (first second : Json → Json) :
    updateItem (updateItem items position first) position second =
      updateItem items position fun old => second (first old) := by
  fun_induction updateItem items position first with
  | case1 => rfl
  | case2 item rest => rfl
  | case3 position _ ih => simp only [updateItem, ih]
  | case4 item rest position _ ih => simp only [updateItem, ih]

/-- A change that keeps an item changes nothing. -/
theorem updateItem_eq_self {items : List Json} {position : Nat} {item : Json}
    {change : Json → Json} (h : items[position]? = some item) (hchange : change item = item) :
    updateItem items position change = items := by
  fun_induction updateItem items position change with
  | case1 => simp at h
  | case2 first rest =>
    obtain rfl := Option.some.inj h
    rw [hchange]
  | case3 => simp at h
  | case4 first rest position _ ih => rw [ih h hchange]

/-- Changes of different items can be made in either order.

**Proof sketch.** By what every position holds: it is one of the two that are changed, or it is
neither of them and lies before or behind each. -/
theorem updateItem_updateItem_of_ne (items : List Json) {position other : Nat}
    (change change' : Json → Json) (h : position ≠ other) :
    updateItem (updateItem items position change) other change' =
      updateItem (updateItem items other change') position change := by
  apply List.ext_getElem?
  intro wanted
  by_cases hposition : wanted = position
  · subst hposition
    rw [getElem?_updateItem_of_ne _ _ h, getElem?_updateItem_self, getElem?_updateItem_self,
      getElem?_updateItem_of_ne _ _ h]
    by_cases hbefore : wanted < other <;> simp [hbefore]
  · rw [getElem?_updateItem_of_ne _ change hposition]
    by_cases hother : wanted = other
    · subst hother
      rw [getElem?_updateItem_self, getElem?_updateItem_self,
        getElem?_updateItem_of_ne _ _ hposition]
      by_cases hbefore : wanted < position <;> simp [hbefore]
    · rw [getElem?_updateItem_of_ne _ _ hother, getElem?_updateItem_of_ne _ _ hposition,
        getElem?_updateItem_of_ne _ _ hother]
      by_cases hbefore : wanted < position <;> by_cases hbefore' : wanted < other <;>
        simp [hbefore, hbefore']

/-- An item behind the end comes after as many nulls as are needed to reach it. -/
theorem updateItem_of_length_le {items : List Json} {position : Nat} (h : items.length ≤ position)
    (change : Json → Json) :
    updateItem items position change =
      items ++ List.replicate (position - items.length) .null ++ [change .null] := by
  fun_induction updateItem items position change with
  | case1 => rfl
  | case2 item rest => simp at h
  | case3 position _ ih =>
    rw [ih (Nat.zero_le _)]
    simp [List.replicate_succ]
  | case4 item rest position _ ih =>
    have hrest : rest.length ≤ position := by simpa using h
    rw [ih hrest]
    simp

end Remap.Json
