import Remap.Proofs.Request.Evaluation
import Remap.Proofs.Request.Translation

set_option relaxedAutoImplicit false
set_option autoImplicit false

/-!
# Reading back what has been written

Expressions read the request that a template has written. At the names of a leaf stands the value
of the leaf, and where the leaf has no value there is nothing but perhaps a null that fills up an
array.

## Main results

* `Remap.Request.reaches_denote`, `Remap.Request.eq_null_of_reaches_denote` — what the names of a
  leaf lead to in the value of its tree.
* `Remap.Request.Template.reaches_of_mem_compilePart` — what the names of an assignment lead to.
* `Remap.Request.Template.eval_evaluate` — reading back from the request of a template.
-/

namespace Remap.Request

open Expression (Reaches)

/-! ## Trees -/

section Tree

variable (leaf : Json → Option Json)

/-- **The names of a leaf lead to its value in the value of the tree.**

**Proof sketch.** Induction on the tree. The value of a member stands at its name, since names are
distinct, and the value of an item at its position, whose digits read as that position. -/
theorem reaches_denote {value : Json} (hvalue : value.WellFormed) :
    ∀ p ∈ placedLeaves value, ∀ v, leaf p.value = some v →
      ∃ found, denote leaf value = some found ∧ Reaches found p.names v := by
  induction hvalue with
  | null | bool | number | string =>
    intro p hp v hv
    obtain rfl := List.mem_singleton.1 hp
    exact ⟨v, hv, .here v⟩
  | @array items hlength _ ih =>
    intro p hp v hv
    obtain ⟨position, item, hitem, q, hq, rfl⟩ := mem_placedItems.1 hp
    obtain ⟨found, hfound, hreaches⟩ := ih item (List.mem_of_getElem? hitem) q hq v hv
    have hget := getElem?_denoteItems_of_eq_some leaf hitem hfound
    have hne : denoteItems leaf items ≠ [] := by
      intro hnil
      rw [hnil] at hget
      simp at hget
    have hposition : position < UInt64.size :=
      Nat.lt_of_lt_of_le (List.getElem?_eq_some_iff.1 hitem).1 hlength
    refine ⟨_, denote_array leaf hne, ?_⟩
    rw [Nat.zero_add]
    exact (Expression.reaches_array_iff hposition).2 ⟨found, hget, hreaches⟩
  | @object members hnames _ ih =>
    intro p hp v hv
    obtain ⟨name, value, hmember, q, hq, rfl⟩ := mem_placedMembers.1 hp
    obtain ⟨found, hfound, hreaches⟩ := ih (name, value) hmember q hq v hv
    have hget := (get?_denoteMembers leaf hnames hmember).trans hfound
    have hne : denoteMembers leaf members ≠ [] := by
      intro hnil
      rw [hnil] at hget
      simp [Members.get?] at hget
    refine ⟨_, denote_object leaf hne, ?_⟩
    exact Expression.reaches_object_iff.2 ⟨found, hget, hreaches⟩

/-- **The names of a leaf without a value lead to nothing but null.**

**Proof sketch.** By induction on the value of the spec. A scalar without a value leaves nothing to
read. In an array the item that holds the leaf is null where it is itself without a value, and below
null everything is null; else the item is read on. In an object the member is left out where it is
without a value, so what is read there is what the induction speaks about. -/
theorem eq_null_of_reaches_denote {value : Json} (hvalue : value.WellFormed) :
    ∀ p ∈ placedLeaves value, leaf p.value = none → ∀ found, denote leaf value = some found →
      ∀ v, Reaches found p.names v → v = .null := by
  induction hvalue with
  | null | bool | number | string =>
    intro p hp hnone found hfound
    obtain rfl := List.mem_singleton.1 hp
    rw [denote, hnone] at hfound
    simp at hfound
  | @array items hlength _ ih =>
    intro p hp hnone found hfound v hreaches
    obtain ⟨position, item, hitem, q, hq, rfl⟩ := mem_placedItems.1 hp
    have hposition : position < UInt64.size :=
      Nat.lt_of_lt_of_le (List.getElem?_eq_some_iff.1 hitem).1 hlength
    obtain rfl := eq_array_of_denote leaf hfound
    rw [Nat.zero_add] at hreaches
    obtain ⟨child, hchild, hrest⟩ := (Expression.reaches_array_iff hposition).1 hreaches
    cases hvalue : denote leaf item with
    | none =>
      obtain rfl := eq_null_of_getElem?_denoteItems leaf hitem hvalue hchild
      exact hrest.eq_null
    | some found =>
      obtain rfl := Option.some.inj
        (hchild.symm.trans (getElem?_denoteItems_of_eq_some leaf hitem hvalue))
      exact ih item (List.mem_of_getElem? hitem) q hq hnone _ hvalue v hrest
  | @object members hnames _ ih =>
    intro p hp hnone found hfound v hreaches
    obtain ⟨name, value, hmember, q, hq, rfl⟩ := mem_placedMembers.1 hp
    obtain rfl := eq_object_of_denote leaf hfound
    obtain ⟨child, hchild, hrest⟩ := Expression.reaches_object_iff.1 hreaches
    have hget := (get?_denoteMembers leaf hnames hmember).symm.trans hchild
    exact ih (name, value) hmember q hq hnone child hget v hrest

end Tree

/-! ## Requests -/

namespace Template

/-- The names of an assignment that has a value lead to the value in what its part denotes. -/
theorem reaches_of_mem_compilePart {compiler : Compiler} {parts : Members}
    (hspec : (Json.object parts).WellFormed) {part : String} {value : Json}
    (hpart : (part, value) ∈ parts) {assignments : List Assignment}
    (h : compilePart compiler (.object parts) part value = .ok assignments) {context : Json}
    {a : Assignment} (ha : a ∈ assignments) {v : Json} (hv : a.content.value? context = some v) :
    ∃ found names, denotePart compiler context part value = some found ∧
      a.target.keys.map Json.Key.name = part :: names ∧ Reaches found names v := by
  rcases compilePart_cases hspec hpart h context with
    ⟨rfl, -⟩ | ⟨a', rfl, hsteps, hvalue⟩ | ⟨-, hleaves, hvalue⟩
  · simp at ha
  · obtain rfl := List.mem_singleton.1 ha
    refine ⟨v, [], hvalue.symm.trans hv, ?_, .here v⟩
    rw [Target.keys, hsteps]
    rfl
  · obtain ⟨p, hp, hsteps, hleaf⟩ :=
      exists_mem_of_forall₂ (forall₂_of_compileLeaves hspec hpart hleaves context) ha
    obtain ⟨found, hfound, hreaches⟩ := reaches_denote _
      ((Json.wellFormed_object_iff.1 hspec).2 _ hpart) p hp v (hleaf.symm.trans hv)
    refine ⟨found, p.names, hvalue.trans hfound, ?_, hreaches⟩
    rw [Target.keys, hsteps, Placed.names, List.map_cons, List.map_cons, List.map_map]
    rfl

/-- The names of a part and then of a place in it lead to that place in the request. -/
theorem reaches_denoteRequest_iff {compiler : Compiler} {context : Json} {parts : Members}
    (hnames : parts.keys.Nodup) {part : String} {value : Json} (hpart : (part, value) ∈ parts)
    {names : List String} {v : Json} :
    Reaches (.object (denoteRequest compiler context parts)) (part :: names) v ↔
      ∃ found, (denotePart compiler context part value).or ((denoteSeed context).get? part) =
        some found ∧ Reaches found names v := by
  rw [Expression.reaches_object_iff, get?_denoteRequest compiler context hnames hpart]

/-- Reading an expression of names is stepping through them. -/
theorem eval_member_eq_ok_iff {names : List String} {value v : Json} :
    Expression.eval ⟨.model, names.map .member⟩ value = .ok v ↔ Reaches value names v :=
  Expression.follow_member_eq_ok_iff

/-- **What has been written is read back**, for every spec that can be compiled and every context.
At the names of a leaf of a part that counts, the request of the template holds the value of the
leaf; where the leaf has no value there is nothing or a null. Every single assignment that has a
value, those of the method and the URI included, is found again at its own names, so no write is
dropped or overwritten by another one.

**Proof sketch.** The request is what the spec denotes (`evaluate_eq_denoteRequest`), and in the
value of a tree the names of a leaf lead to the value of the leaf (`reaches_denote`), or to null at
most (`eq_null_of_reaches_denote`). -/
theorem eval_evaluate {compiler : Compiler} {spec : Json} (hspec : spec.WellFormed) {t : Template}
    (h : compileWith compiler spec = .ok t) (context : Json) :
    (∃ parts, spec = .object parts ∧ ∀ part value, (part, value) ∈ parts → part ≠ "method" →
      part ≠ "uri" → value.isFalsy = false → ∀ leaf ∈ leaves value,
        (∀ v, denoteLeaf compiler part context leaf.value = some v →
          Expression.eval ⟨.model, (part :: leaf.path).map .member⟩ (t.evaluate context) = .ok v) ∧
        (denoteLeaf compiler part context leaf.value = none → ∀ v,
          Expression.eval ⟨.model, (part :: leaf.path).map .member⟩ (t.evaluate context) = .ok v →
            v = .null)) ∧
    ∀ a ∈ t.assignments, ∀ v, a.content.value? context = some v →
      Expression.eval ⟨.model, (a.target.keys.map Json.Key.name).map .member⟩
        (t.evaluate context) = .ok v := by
  obtain ⟨parts, rfl, hparts⟩ := compileWith_eq_ok_iff.1 h
  obtain ⟨hnames, hvalues⟩ := Json.wellFormed_object_iff.1 hspec
  rw [evaluate_eq_denoteRequest hspec hparts context]
  simp only [eval_member_eq_ok_iff]
  refine ⟨⟨parts, rfl, ?_⟩, ?_⟩
  · intro part value hpart hmethod huri hfalsy leaf hleaf
    have hnull : value ≠ .null := by
      rintro rfl
      simp [Json.isFalsy] at hfalsy
    have hdenote : denotePart compiler context part value =
        denote (denoteLeaf compiler part context) value := by
      rw [denotePart_of_ne_null compiler context part hnull, if_neg hmethod, if_neg huri,
        if_neg (by simp [hfalsy])]
    rw [leaves_eq_map_placedLeaves, List.mem_map] at hleaf
    obtain ⟨p, hp, rfl⟩ := hleaf
    simp only [reaches_denoteRequest_iff hnames hpart, hdenote, get?_denoteSeed context hmethod,
      Option.or_none]
    constructor
    · intro v hv
      exact reaches_denote _ (hvalues _ hpart) p hp v hv
    · rintro hnone v ⟨found, hfound, hreaches⟩
      exact eq_null_of_reaches_denote _ (hvalues _ hpart) p hp hnone found hfound v hreaches
  · intro a ha v hv
    obtain ⟨part, value, own, hpart, hown, ha⟩ := exists_of_mem_compileParts hparts ha
    obtain ⟨found, names, hfound, hkeys, hreaches⟩ :=
      reaches_of_mem_compilePart hspec hpart hown ha hv
    rw [hkeys, reaches_denoteRequest_iff hnames hpart]
    refine ⟨found, ?_, hreaches⟩
    rw [hfound, Option.some_or]

/-- Below a name with a dot, between a leaf without a value and one that the array ends with. -/
theorem eval_evaluate_dotted_name :
    ∃ t : Template,
      compileWith (fun source => .ok fun _ =>
          if source = "m.request.body.id" then some (.array [.null]) else none)
        (.object [("body", .object [
          ("a.b", .array [.string "{gone}", .string "{id}", .string "x"])])]) = .ok t ∧
      Expression.eval ⟨.model, [.member "body", .member "a.b", .member "1"]⟩ (t.evaluate .null) =
        .ok (.array [.null]) := by
  refine Exists.imp (fun t ht => ⟨ht, ?_⟩) ⟨_, rfl⟩
  obtain ⟨⟨parts, hparts, hleaves⟩, -⟩ :=
    eval_evaluate (by simp [Members.keys, UInt64.size]) ht .null
  obtain rfl := Json.object.inj hparts
  have hleaf := hleaves "body" _ List.mem_cons_self (by decide) (by decide) rfl
    ⟨["a.b", "1"], .string "{id}"⟩ (List.mem_cons_of_mem _ List.mem_cons_self)
  exact hleaf.1 _ rfl

end Template

end Remap.Request
