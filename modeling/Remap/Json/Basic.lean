import Remap.Binary64.Basic

set_option relaxedAutoImplicit false
set_option autoImplicit false

/-!
# JSON values

JSON values as request specs, contexts and requests hold them. An object is the list of its members
in the order in which they were first given; arrays and objects are plain lists, so that functions
on values are recursions over the tree.

## Main definitions

* `Remap.Json` — a value; `Remap.Json.Number` — a number, exact where it is an integer.
* `Remap.Json.isFalsy` — the scalars that count as absent.
* `Remap.Members.get?`, `Remap.Members.update` — reading and changing the members of an object.

## Main results

* `Remap.Members.get?_update_self`, `Remap.Members.get?_update_of_ne` — an update is seen at its
  own name only.
* `Remap.Members.get?_update_update_of_ne` — updates at different names commute where they are read.
* `Remap.Members.keys_update` — an update keeps the names and their order, and adds a missing name
  at the end.
* `Remap.Members.get?_eq_some_iff` — where no name is repeated, looking up a name finds its member.
-/

namespace Remap

/-- A number: an integer kept exactly, or a double. An integer and a double of the same value are
different numbers. -/
inductive Json.Number where
  | integer (value : Int)
  | double (value : Binary64)
  deriving DecidableEq, Repr

/-- A JSON value. -/
inductive Json where
  | null
  | bool (value : Bool)
  | number (value : Json.Number)
  | string (value : String)
  | array (items : List Json)
  | object (members : List (String × Json))
  deriving Repr, Inhabited

/-- The members of an object in order. -/
abbrev Members := List (String × Json)

namespace Json

/-- Whether the number is zero. -/
def Number.isZero : Number → Bool
  | .integer value => value = 0
  | .double value => value.isZero

/-- The scalars that count as absent: null, false, zero and the empty string. -/
def isFalsy : Json → Bool
  | .null => true
  | .bool value => !value
  | .number value => value.isZero
  | .string value => value = ""
  | .array _ => false
  | .object _ => false

/-- The kind of a value with its article, as error messages name it. -/
def kindName : Json → String
  | .null => "null"
  | .bool _ => "a boolean"
  | .number _ => "a number"
  | .string _ => "a string"
  | .array _ => "an array"
  | .object _ => "an object"

end Json

namespace Members

/-- The value of the first member with the name. -/
def get? : Members → String → Option Json
  | [], _ => none
  | (key, value) :: rest, name => if key = name then some value else get? rest name

/-- Changes the value of the first member with the name; a missing member is added at the end, its
old value being null. -/
def update : Members → String → (Json → Json) → Members
  | [], name, change => [(name, change .null)]
  | (key, value) :: rest, name, change =>
    if key = name then (key, change value) :: rest else (key, value) :: update rest name change

/-- Sets the value of a member, in place where the name exists and at the end where it does not. -/
def insert (members : Members) (name : String) (value : Json) : Members :=
  members.update name fun _ => value

/-- The names of the members in order. -/
def keys (members : Members) : List String :=
  members.map Prod.fst

/-- An update is seen at its name. -/
@[simp]
theorem get?_update_self (members : Members) (name : String) (change : Json → Json) :
    (members.update name change).get? name = some (change ((members.get? name).getD .null)) := by
  induction members with
  | nil => simp [update, get?]
  | cons member rest ih =>
    obtain ⟨key, value⟩ := member
    by_cases h : key = name <;> simp [update, get?, h, ih]

/-- An update is not seen at any other name. -/
theorem get?_update_of_ne (members : Members) {name other : String} (change : Json → Json)
    (h : other ≠ name) : (members.update name change).get? other = members.get? other := by
  induction members with
  | nil => simp [update, get?, h.symm]
  | cons member rest ih =>
    obtain ⟨key, value⟩ := member
    by_cases hk : key = name
    · subst hk; simp [update, get?, h.symm]
    · by_cases ho : key = other
      · subst ho; simp [update, get?, h]
      · simp [update, get?, hk, ho, ih]

/-- An update keeps the names in their order; a missing name comes last. -/
theorem keys_update (members : Members) (name : String) (change : Json → Json) :
    (members.update name change).keys =
      if name ∈ members.keys then members.keys else members.keys ++ [name] := by
  induction members with
  | nil => simp [update, keys]
  | cons member rest ih =>
    obtain ⟨key, value⟩ := member
    by_cases h : key = name
    · simp [update, keys, h]
    · simp only [keys] at ih
      by_cases hm : name ∈ rest.map Prod.fst <;> simp_all [update, keys, Ne.symm h]

/-- Two updates of one name are one update. -/
theorem update_update (members : Members) (name : String) (first second : Json → Json) :
    (members.update name first).update name second =
      members.update name fun old => second (first old) := by
  induction members with
  | nil => simp [update]
  | cons member rest ih =>
    obtain ⟨key, value⟩ := member
    by_cases h : key = name
    · simp [update, h]
    · simp [update, h, ih]

/-- A change that keeps the value of a member changes nothing. -/
theorem update_eq_self {members : Members} {name : String} {value : Json} {change : Json → Json}
    (h : members.get? name = some value) (hchange : change value = value) :
    members.update name change = members := by
  induction members with
  | nil => simp [get?] at h
  | cons member rest ih =>
    obtain ⟨key, first⟩ := member
    rw [get?] at h
    by_cases hkey : key = name
    · rw [if_pos hkey] at h
      obtain rfl := Option.some.inj h
      rw [update, if_pos hkey, hchange]
    · rw [if_neg hkey] at h
      rw [update, if_neg hkey, ih h]

/-- Two updates of different names are seen as if they were made in the other order. -/
theorem get?_update_update_of_ne (members : Members) {name other : String}
    (change change' : Json → Json) (h : name ≠ other) (wanted : String) :
    ((members.update name change).update other change').get? wanted =
      ((members.update other change').update name change).get? wanted := by
  by_cases hname : wanted = name
  · subst hname
    rw [get?_update_of_ne _ _ h, get?_update_self, get?_update_self, get?_update_of_ne _ _ h]
  · rw [get?_update_of_ne _ change hname]
    by_cases hother : wanted = other
    · subst hother
      rw [get?_update_self, get?_update_self, get?_update_of_ne _ _ hname]
    · rw [get?_update_of_ne _ _ hother, get?_update_of_ne _ _ hname, get?_update_of_ne _ _ hother]

/-- A missing name is added at the end. -/
theorem update_of_not_mem {members : Members} {name : String} (h : name ∉ members.keys)
    (change : Json → Json) : members.update name change = members ++ [(name, change .null)] := by
  induction members with
  | nil => rfl
  | cons member rest ih =>
    obtain ⟨key, value⟩ := member
    simp only [keys, List.map_cons, List.mem_cons, not_or] at h
    rw [update, if_neg (Ne.symm h.1), ih h.2, List.cons_append]

/-- A name that does not occur is not found. -/
theorem get?_eq_none_iff {members : Members} {name : String} :
    members.get? name = none ↔ name ∉ members.keys := by
  induction members with
  | nil => simp [get?, keys]
  | cons member rest ih =>
    obtain ⟨key, value⟩ := member
    by_cases h : key = name
    · simp [get?, keys, h]
    · simp only [keys] at ih
      simp [get?, keys, h, Ne.symm h, ih]

/-- What is found at a name is a member. -/
theorem mem_of_get? {members : Members} {name : String} {value : Json}
    (h : members.get? name = some value) : (name, value) ∈ members := by
  induction members with
  | nil => simp [get?] at h
  | cons member rest ih =>
    obtain ⟨key, first⟩ := member
    rw [get?] at h
    by_cases hkey : key = name
    · rw [if_pos hkey] at h
      rw [hkey, Option.some.inj h]
      exact List.mem_cons_self
    · rw [if_neg hkey] at h
      exact List.mem_cons_of_mem _ (ih h)

/-- Where no name is repeated, looking up a name finds its member. -/
theorem get?_eq_some_iff {members : Members} (h : members.keys.Nodup) {name : String}
    {value : Json} : members.get? name = some value ↔ (name, value) ∈ members := by
  induction members with
  | nil => simp [get?]
  | cons member rest ih =>
    obtain ⟨key, first⟩ := member
    simp only [keys, List.map_cons, List.nodup_cons] at h
    by_cases hk : key = name
    · subst hk
      have hrest : (key, value) ∉ rest := fun hmem => h.1 (List.mem_map.2 ⟨_, hmem, rfl⟩)
      simp [get?, hrest, eq_comm]
    · simp [get?, hk, Ne.symm hk, ih h.2]

end Members

/-- The member of an object with the name; other values have no members. -/
def Json.member? (value : Json) (name : String) : Option Json :=
  match value with
  | .object members => Members.get? members name
  | _ => none

/-- The object of a list of members, the last value of a repeated name at its first place. -/
def Json.ofMembers (members : List (String × Json)) : Json :=
  .object (members.foldl (fun (all : Members) member => all.insert member.1 member.2) [])

end Remap
