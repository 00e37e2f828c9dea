import Mathlib.Data.List.Nodup
import Remap.Request.Template

set_option relaxedAutoImplicit false
set_option autoImplicit false

/-!
# What a spec denotes

The outgoing request of a spec can be said without assignments, by recursion over the tree. A leaf
denotes a value or none. An object denotes the object of those members that denote a value. An array
denotes the array of what its items denote up to the last one that denotes a value, with null in the
place of each one before it that does not. A container in which nothing denotes a value denotes
none.

## Main definitions

* `Remap.Request.denote` — the value of a tree for given values of its leaves.
* `Remap.Request.denoteLeaf` — the value of a leaf in a context.
* `Remap.Request.denoteSeed`, `Remap.Request.denoteParams` — what is taken from the incoming request
  by its name.
* `Remap.Request.denotePart`, `Remap.Request.denoteRequest` — parts of a spec, and the request.

## Main results

* `Remap.Request.get?_denoteMembers`, `Remap.Request.getElem?_denoteItems_of_eq_some` — where the
  values of members and items are found.
* `Remap.Request.denote_congr` — what a tree denotes depends on the values of its leaves only.
* `Remap.Request.get?_denoteRequest` — a part of the request is what the part of the spec denotes.
-/

namespace Remap.Request

/-! ## Trees -/

section Tree

variable (leaf : Json → Option Json)

mutual

/-- The value of a tree, if it has one, for given values of its leaves. -/
def denote : Json → Option Json
  | .object members =>
    match denoteMembers members with
    | [] => none
    | found => some (.object found)
  | .array items =>
    match denoteItems items with
    | [] => none
    | found => some (.array found)
  | .null => leaf .null
  | .bool value => leaf (.bool value)
  | .number value => leaf (.number value)
  | .string value => leaf (.string value)

/-- The members that have a value, in order. -/
def denoteMembers : List (String × Json) → Members
  | [] => []
  | (name, value) :: rest =>
    match denote value with
    | some found => (name, found) :: denoteMembers rest
    | none => denoteMembers rest

/-- The items up to the last one that has a value, null for each that has none. -/
def denoteItems : List Json → List Json
  | [] => []
  | item :: rest =>
    match denote item, denoteItems rest with
    | none, [] => []
    | found, later => found.getD .null :: later

end

/-- An object that holds a value denotes what its members denote. -/
theorem denote_object {members : List (String × Json)} (h : denoteMembers leaf members ≠ []) :
    denote leaf (.object members) = some (.object (denoteMembers leaf members)) := by
  cases hfound : denoteMembers leaf members with
  | nil => exact absurd hfound h
  | cons first rest => simp only [denote, hfound]

/-- An array that holds a value denotes what its items denote. -/
theorem denote_array {items : List Json} (h : denoteItems leaf items ≠ []) :
    denote leaf (.array items) = some (.array (denoteItems leaf items)) := by
  cases hfound : denoteItems leaf items with
  | nil => exact absurd hfound h
  | cons first rest => simp only [denote, hfound]

/-- An object denotes nothing exactly where none of its members does. -/
theorem denote_object_eq_none_iff {members : List (String × Json)} :
    denote leaf (.object members) = none ↔ denoteMembers leaf members = [] := by
  cases hfound : denoteMembers leaf members <;> simp [denote, hfound]

/-- An array denotes nothing exactly where none of its items does. -/
theorem denote_array_eq_none_iff {items : List Json} :
    denote leaf (.array items) = none ↔ denoteItems leaf items = [] := by
  cases hfound : denoteItems leaf items <;> simp [denote, hfound]

/-- The value of an object, if it has one, is made of the values of its members. -/
theorem eq_object_of_denote {members : List (String × Json)} {found : Json}
    (h : denote leaf (.object members) = some found) :
    found = .object (denoteMembers leaf members) := by
  by_cases hfound : denoteMembers leaf members = []
  · simp [denote, hfound] at h
  · rw [denote_object leaf hfound] at h
    exact (Option.some.inj h).symm

/-- The value of an array, if it has one, is made of the values of its items. -/
theorem eq_array_of_denote {items : List Json} {found : Json}
    (h : denote leaf (.array items) = some found) : found = .array (denoteItems leaf items) := by
  by_cases hfound : denoteItems leaf items = []
  · simp [denote, hfound] at h
  · rw [denote_array leaf hfound] at h
    exact (Option.some.inj h).symm

/-- The names of the value of an object are among the names of the object. -/
theorem mem_keys_of_mem_keys_denoteMembers {members : List (String × Json)} {name : String}
    (h : name ∈ (denoteMembers leaf members).keys) : name ∈ Members.keys members := by
  induction members with
  | nil => exact h
  | cons member rest ih =>
    obtain ⟨first, value⟩ := member
    rw [Members.keys, List.map_cons, List.mem_cons]
    cases hfound : denote leaf value with
    | some found =>
      simp only [denoteMembers, hfound, Members.keys, List.map_cons, List.mem_cons] at h
      rcases h with h | h
      · left; exact h
      · right; exact ih h
    | none =>
      simp only [denoteMembers, hfound] at h
      right; exact ih h

/-- Where no name is repeated, the value of a member is found at its name. -/
theorem get?_denoteMembers {members : List (String × Json)} (h : (Members.keys members).Nodup)
    {name : String} {value : Json} (hmem : (name, value) ∈ members) :
    (denoteMembers leaf members).get? name = denote leaf value := by
  induction members with
  | nil => simp at hmem
  | cons member rest ih =>
    obtain ⟨first, firstValue⟩ := member
    rw [Members.keys, List.map_cons, List.nodup_cons] at h
    have hrest : first ∉ (denoteMembers leaf rest).keys := fun hfirst =>
      h.1 (mem_keys_of_mem_keys_denoteMembers leaf hfirst)
    rw [denoteMembers]
    rcases List.mem_cons.1 hmem with heq | hmem
    · obtain ⟨rfl, rfl⟩ := Prod.mk.inj heq
      cases denote leaf value with
      | some found => simp [Members.get?]
      | none => exact Members.get?_eq_none_iff.2 hrest
    · have hne : first ≠ name := by
        rintro rfl
        exact h.1 (List.mem_map.2 ⟨_, hmem, rfl⟩)
      cases denote leaf firstValue with
      | some found => simpa [Members.get?, hne] using ih h.2 hmem
      | none => exact ih h.2 hmem

/-- Items that have no value are cut off at the end; an item before one that has a value stays, as
null if it has none itself. -/
theorem denoteItems_cons_cases (item : Json) (rest : List Json) :
    (denote leaf item = none ∧ denoteItems leaf rest = [] ∧ denoteItems leaf (item :: rest) = []) ∨
      denoteItems leaf (item :: rest) =
        (denote leaf item).getD .null :: denoteItems leaf rest := by
  rw [denoteItems]
  cases denote leaf item with
  | some found => right; rfl
  | none =>
    cases denoteItems leaf rest with
    | nil => left; exact ⟨rfl, rfl, rfl⟩
    | cons later others => right; rfl

/-- The value of an item stands at the position of the item. -/
theorem getElem?_denoteItems_of_eq_some {items : List Json} {position : Nat} {item found : Json}
    (hitem : items[position]? = some item) (h : denote leaf item = some found) :
    (denoteItems leaf items)[position]? = some found := by
  induction items generalizing position with
  | nil => simp at hitem
  | cons first rest ih =>
    cases position with
    | zero =>
      obtain rfl := Option.some.inj hitem
      rw [denoteItems, h]
      rfl
    | succ position =>
      have hrest := ih hitem
      rcases denoteItems_cons_cases leaf first rest with ⟨-, hnil, -⟩ | hcons
      · simp [hnil] at hrest
      · rw [hcons]
        exact hrest

/-- At the position of an item without a value there is nothing or null. -/
theorem eq_null_of_getElem?_denoteItems {items : List Json} {position : Nat} {item found : Json}
    (hitem : items[position]? = some item) (h : denote leaf item = none)
    (hfound : (denoteItems leaf items)[position]? = some found) : found = .null := by
  induction items generalizing position with
  | nil => simp at hitem
  | cons first rest ih =>
    rcases denoteItems_cons_cases leaf first rest with ⟨-, -, hnil⟩ | hcons
    · simp [hnil] at hfound
    · rw [hcons] at hfound
      cases position with
      | zero =>
        obtain rfl := Option.some.inj hitem
        rw [h] at hfound
        exact (Option.some.inj hfound).symm
      | succ position => exact ih hitem hfound

end Tree

mutual

/-- A tree denotes the same where its leaves have the same values. -/
theorem denote_congr {leaf leaf' : Json → Option Json} : ∀ {value : Json},
    (∀ l ∈ leaves value, leaf l.value = leaf' l.value) → denote leaf value = denote leaf' value
  | .object _, h => by rw [denote, denote, denoteMembers_congr h]
  | .array _, h => by rw [denote, denote, denoteItems_congr h]
  | .null, h | .bool _, h | .number _, h | .string _, h => h _ (List.mem_singleton.2 rfl)

/-- Members denote the same where their leaves have the same values. -/
theorem denoteMembers_congr {leaf leaf' : Json → Option Json} : ∀ {members : List (String × Json)},
    (∀ l ∈ memberLeaves members, leaf l.value = leaf' l.value) →
      denoteMembers leaf members = denoteMembers leaf' members
  | [], _ => rfl
  | (name, value) :: rest, h => by
    rw [memberLeaves, List.forall_mem_append, List.forall_mem_map] at h
    rw [denoteMembers, denoteMembers, denote_congr h.1, denoteMembers_congr h.2]

/-- Items denote the same where their leaves have the same values. -/
theorem denoteItems_congr {leaf leaf' : Json → Option Json} :
    ∀ {position : Nat} {items : List Json},
      (∀ l ∈ itemLeaves position items, leaf l.value = leaf' l.value) →
        denoteItems leaf items = denoteItems leaf' items
  | _, [], _ => rfl
  | position, item :: rest, h => by
    rw [itemLeaves, List.forall_mem_append, List.forall_mem_map] at h
    rw [denoteItems, denoteItems, denote_congr h.1, denoteItems_congr h.2]

end

/-! ## Leaves -/

/-- The value of a token in a part: what the evaluator finds that is compiled for it. -/
def denoteToken (compiler : Compiler) (part : String) (context : Json) (token : String) :
    Option Json :=
  match Placeholder.parse token with
  | .ok placeholder =>
    match compiler (placeholder.expression part).source with
    | .ok evaluator => evaluator context
    | .error _ => none
  | .error _ => none

/-- The value of a leaf in a part: that of its token for a placeholder, and otherwise the leaf
itself. -/
def denoteLeaf (compiler : Compiler) (part : String) (context : Json) : Json → Option Json
  | .string text =>
    if isPlaceholder text then denoteToken compiler part context text else some (.string text)
  | literal => some literal

/-! ## Requests -/

/-- The parameters of the incoming request: what stands at `request.params` in the context, and null
if nothing does. -/
def denoteParams (context : Json) : Json :=
  (context.atPath? [.field "request", .field "params"]).getD .null

/-- The value of the URI: that of its token for a single placeholder, and otherwise the expansion of
the URI template by the parameters of the incoming request. -/
def denoteUri (compiler : Compiler) (context : Json) : Json → Option Json
  | .string text =>
    if isSinglePlaceholder text then denoteToken compiler "uri" context text
    else
      match Uri.parse text with
      | .ok template => (template.expand (denoteParams context)).toOption.map Json.string
      | .error _ => none
  | _ => none

/-- What a part of a spec contributes to the request, if it contributes anything. -/
def denotePart (compiler : Compiler) (context : Json) (part : String) (value : Json) :
    Option Json :=
  match value with
  | .null => none
  | _ =>
    if part = "method" then some value
    else if part = "uri" then denoteUri compiler context value
    else if value.isFalsy then none
    else denote (denoteLeaf compiler part context) value

/-- A part that is not null is treated by its name. -/
theorem denotePart_of_ne_null (compiler : Compiler) (context : Json) (part : String) {value : Json}
    (h : value ≠ .null) :
    denotePart compiler context part value =
      if part = "method" then some value
      else if part = "uri" then denoteUri compiler context value
      else if value.isFalsy then none
      else denote (denoteLeaf compiler part context) value := by
  cases value with
  | null => exact absurd rfl h
  | _ => rfl

/-- The request with one more part, which takes the place of an old part of its name. -/
def addPart (compiler : Compiler) (context : Json) (request : Members) (part : String × Json) :
    Members :=
  match denotePart compiler context part.1 part.2 with
  | some value => request.insert part.1 value
  | none => request

/-- The request before its first part: the method of the incoming request, if that has one. -/
def denoteSeed (context : Json) : Members :=
  match context.atPath? [.field "request", .field "method"] with
  | some method => [("method", method)]
  | none => []

/-- The request that the parts of a spec denote in a context. It starts with the method of the
incoming request, if that has one. -/
def denoteRequest (compiler : Compiler) (context : Json) (parts : Members) : Members :=
  parts.foldl (addPart compiler context) (denoteSeed context)

/-- Nothing but the method is in the request before its first part. -/
theorem get?_denoteSeed (context : Json) {name : String} (h : name ≠ "method") :
    (denoteSeed context).get? name = none := by
  rw [denoteSeed]
  cases context.atPath? [.field "request", .field "method"] with
  | some method => simp [Members.get?, Ne.symm h]
  | none => rfl

/-- A part of another name does not change what a name holds. -/
theorem get?_addPart_of_ne (compiler : Compiler) (context : Json) (request : Members)
    {part : String × Json} {name : String} (h : name ≠ part.1) :
    (addPart compiler context request part).get? name = request.get? name := by
  rw [addPart]
  cases denotePart compiler context part.1 part.2 with
  | some value => exact Members.get?_update_of_ne _ _ h
  | none => rfl

/-- Parts of other names do not change what a name holds. -/
theorem get?_foldl_addPart_of_not_mem (compiler : Compiler) (context : Json) {parts : Members}
    {name : String} (h : name ∉ parts.keys) (request : Members) :
    (parts.foldl (addPart compiler context) request).get? name = request.get? name := by
  induction parts generalizing request with
  | nil => rfl
  | cons part rest ih =>
    rw [Members.keys, List.map_cons, List.mem_cons, not_or] at h
    rw [List.foldl_cons, ih h.2, get?_addPart_of_ne _ _ _ h.1]

/-- A part of the request is what the part of the spec denotes. Where that is nothing, it is what
the request started with. -/
theorem get?_denoteRequest (compiler : Compiler) (context : Json) {parts : Members}
    (h : parts.keys.Nodup) {part : String} {value : Json} (hmem : (part, value) ∈ parts) :
    (denoteRequest compiler context parts).get? part =
      (denotePart compiler context part value).or ((denoteSeed context).get? part) := by
  obtain ⟨front, back, rfl⟩ := List.append_of_mem hmem
  rw [Members.keys, List.map_append, List.map_cons] at h
  obtain ⟨-, hback, hdisjoint⟩ := List.nodup_append.1 h
  have hfront : part ∉ Members.keys front := fun hin =>
    hdisjoint part hin part List.mem_cons_self rfl
  rw [denoteRequest, List.foldl_append, List.foldl_cons,
    get?_foldl_addPart_of_not_mem compiler context (List.nodup_cons.1 hback).1, addPart]
  cases denotePart compiler context part value with
  | some found => simp only [Members.insert, Members.get?_update_self, Option.some_or]
  | none => rw [Option.none_or, get?_foldl_addPart_of_not_mem compiler context hfront]

end Remap.Request
