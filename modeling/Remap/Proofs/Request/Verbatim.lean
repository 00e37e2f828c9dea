import Remap.Proofs.Json.SameContent
import Remap.Proofs.Request.Compilation
import Remap.Proofs.Request.Evaluation
import Remap.Proofs.Uri.PlainText

set_option relaxedAutoImplicit false
set_option autoImplicit false

/-!
# Specs that stand for themselves

Some specs are evaluated to themselves in every context: nothing in them depends on the context, and
nothing in them is dropped. They are characterised here by how they are made. One direction rebuilds
the tree; the other finds for everything else a context in which it shows: null for placeholders and
for what counts as absent, an array as parameter for the variables of a URI, and a method in the
incoming request where the spec has none.

## Main definitions

* `Remap.Json.Plain` — values without placeholders, empty containers and empty names.
* `Remap.Request.Verbatim` — the parts of a spec that stands for itself.

## Main results

* `Remap.Request.denote_eq_self` — a plain value denotes itself.
* `Remap.Request.plain_of_denote` — every other value without faults denotes something else where
  placeholders have no value.
* `Remap.Request.denoteUri_eq_self_iff` — a URI denotes itself where it has no braces.
* `Remap.Request.Template.compile_evaluate_sameContent_iff` — which specs stand for themselves.
-/

namespace Remap

/-- No string in the value is a placeholder, and no object in it is empty or has an empty name, nor
is an array in it empty. -/
inductive Json.Plain : Json → Prop
  | null : Plain .null
  | bool (value : Bool) : Plain (.bool value)
  | number (value : Number) : Plain (.number value)
  | string {text : String} (h : ∀ inner, ¬Request.Braced text.toList inner) : Plain (.string text)
  | array {items : List Json} (hne : items ≠ []) (hitems : ∀ item ∈ items, Plain item) :
      Plain (.array items)
  | object {members : Members} (hne : members ≠ []) (hnames : "" ∉ members.keys)
      (hmembers : ∀ member ∈ members, Plain member.2) : Plain (.object members)

namespace Request

open Json (Plain)

/-- The parts of a spec that stands for itself: a method that is not null; as URI, if there is one,
a string without braces; and other parts that have a name and are neither falsy nor anything but
plain. -/
structure Verbatim (parts : Members) : Prop where
  method : ∃ value, ("method", value) ∈ parts ∧ value ≠ .null
  uri : ∀ value, ("uri", value) ∈ parts →
    ∃ text, value = .string text ∧ '{' ∉ text.toList ∧ '}' ∉ text.toList
  other : ∀ part value, (part, value) ∈ parts → part ≠ "method" → part ≠ "uri" →
    part ≠ "" ∧ value.isFalsy = false ∧ value.Plain

/-! ## Plain values -/

section Tree

variable (leaf : Json → Option Json)

/-- Members that denote themselves are all there. -/
theorem denoteMembers_eq_self {members : Members}
    (h : ∀ member ∈ members, denote leaf member.2 = some member.2) :
    denoteMembers leaf members = members := by
  induction members with
  | nil => rfl
  | cons member rest ih =>
    obtain ⟨name, value⟩ := member
    rw [List.forall_mem_cons] at h
    rw [denoteMembers, h.1, ih h.2]

/-- Items that denote themselves are all there. -/
theorem denoteItems_eq_self {items : List Json} (h : ∀ item ∈ items, denote leaf item = some item) :
    denoteItems leaf items = items := by
  induction items with
  | nil => rfl
  | cons item rest ih =>
    rw [List.forall_mem_cons] at h
    rw [denoteItems, h.1, ih h.2]
    rfl

end Tree

/-- **A plain value denotes itself** in every part and every context. -/
theorem denote_eq_self {value : Json} (h : value.Plain) (compiler : Compiler) (part : String)
    (context : Json) : denote (denoteLeaf compiler part context) value = some value := by
  induction h with
  | null => rfl
  | bool value => rfl
  | number value => rfl
  | @string text hplain =>
    have htoken : ¬isPlaceholder text = true := by
      rw [isPlaceholder_iff]
      exact fun ⟨inner, hbraced⟩ => hplain inner hbraced
    rw [denote, denoteLeaf, if_neg htoken]
  | array hne _ ih =>
    have hitems := denoteItems_eq_self _ ih
    rw [denote_array _ (by rwa [hitems]), hitems]
  | object hne _ _ ih =>
    have hmembers := denoteMembers_eq_self _ ih
    rw [denote_object _ (by rwa [hmembers]), hmembers]

/-- A value that denotes something has a leaf. -/
theorem placedLeaves_ne_nil {leaf : Json → Option Json} {value found : Json}
    (h : denote leaf value = some found) : placedLeaves value ≠ [] := by
  intro hnil
  refine foundLeaves_ne_nil leaf h ?_
  rw [foundLeaves, hnil, List.filterMap_nil]

/-- Nothing is wrong with the leaves of a plain value: all names on the way to them have characters,
and none is a placeholder.

**Proof sketch.** Induction on the plain value. A leaf of a container is one of an item, behind a
position, which is printed as digits, or one of a member, whose name is not empty. -/
theorem names_of_plain {value : Json} (h : value.Plain) :
    ∀ p ∈ placedLeaves value, "" ∉ p.names ∧
      ∀ text inner, p.value = .string text → ¬Braced text.toList inner := by
  induction h with
  | null | bool | number =>
    intro p hp
    obtain rfl := List.mem_singleton.1 hp
    exact ⟨by simp [Placed.names], by simp⟩
  | string hplain =>
    intro p hp
    obtain rfl := List.mem_singleton.1 hp
    refine ⟨by simp [Placed.names], fun text inner htext => ?_⟩
    obtain rfl := Json.string.inj htext
    exact hplain inner
  | array _ _ ih =>
    intro p hp
    obtain ⟨position, item, hitem, q, hq, rfl⟩ := mem_placedItems.1 hp
    obtain ⟨hnames, hvalue⟩ := ih item (List.mem_of_getElem? hitem) q hq
    refine ⟨?_, hvalue⟩
    rw [Placed.names_under, List.mem_cons, not_or]
    exact ⟨(Text.decimal_ne_empty _).symm, hnames⟩
  | object _ hnonempty _ ih =>
    intro p hp
    obtain ⟨name, value, hmember, q, hq, rfl⟩ := mem_placedMembers.1 hp
    obtain ⟨hnames, hvalue⟩ := ih (name, value) hmember q hq
    refine ⟨?_, hvalue⟩
    rw [Placed.names_under, List.mem_cons, not_or]
    exact ⟨fun hempty => hnonempty (hempty ▸ List.mem_map_of_mem (f := Prod.fst) hmember), hnames⟩

/-- In an array that denotes itself every item does, as far as its content goes. Only a null could
stand for an item without a value, but then the item is null, which denotes itself. -/
theorem exists_denote_item_of_sameContent {leaf : Json → Option Json}
    (hnull : leaf .null = some .null) {items : List Json}
    (hsame : (Json.array (denoteItems leaf items)).SameContent (.array items)) {position : Nat}
    {item : Json} (hitem : items[position]? = some item) :
    ∃ found, denote leaf item = some found ∧ found.SameContent item := by
  obtain ⟨x, hx, hsameItem⟩ := hsame.exists_getElem? hitem
  cases hdenote : denote leaf item with
  | some found =>
    obtain rfl := Option.some.inj
      (hx.symm.trans (getElem?_denoteItems_of_eq_some leaf hitem hdenote))
    exact ⟨_, rfl, hsameItem⟩
  | none =>
    obtain rfl := eq_null_of_getElem?_denoteItems leaf hitem hdenote hx
    obtain rfl := hsameItem.eq_null
    rw [denote, hnull] at hdenote
    simp at hdenote

/-- In an object that denotes itself every member does, as far as its content goes. -/
theorem exists_denote_member_of_sameContent {leaf : Json → Option Json} {members : Members}
    (hnames : members.keys.Nodup)
    (hsame : (Json.object (denoteMembers leaf members)).SameContent (.object members))
    {name : String} {value : Json} (hmember : (name, value) ∈ members) :
    ∃ found, denote leaf value = some found ∧ found.SameContent value := by
  obtain ⟨found, hfound, hsameValue⟩ :=
    hsame.exists_get? ((Members.get?_eq_some_iff hnames).2 hmember)
  exact ⟨found, (get?_denoteMembers leaf hnames hmember).symm.trans hfound, hsameValue⟩

/-- **A value that denotes itself is plain**, as far as its content goes, if no name on the way to a
leaf is empty and no placeholder has a value.

**Proof sketch.** Induction on the tree. Every item and every member denotes itself
(`exists_denote_item_of_sameContent`, `exists_denote_member_of_sameContent`). Each of them has a
leaf, and the name of a member is on the way to it. -/
theorem plain_of_denote {leaf : Json → Option Json} (hnull : leaf .null = some .null)
    (hbraced : ∀ text inner, Braced text.toList inner → leaf (.string text) = none) {value : Json}
    (hvalue : value.WellFormed) (hnames : ∀ p ∈ placedLeaves value, "" ∉ p.names) {found : Json}
    (hfound : denote leaf value = some found) (hsame : found.SameContent value) : value.Plain := by
  induction hvalue generalizing found with
  | null => exact .null
  | bool value => exact .bool value
  | number value => exact .number value
  | string text =>
    refine .string fun inner h => ?_
    rw [denote, hbraced text inner h] at hfound
    simp at hfound
  | @array items hlength hitems ih =>
    obtain rfl := eq_array_of_denote leaf hfound
    refine .array ?_ fun item hmem => ?_
    · rintro rfl
      simp [denote, denoteItems] at hfound
    · obtain ⟨position, hitem⟩ := List.getElem?_of_mem hmem
      obtain ⟨child, hdenote, hsameItem⟩ := exists_denote_item_of_sameContent hnull hsame hitem
      refine ih item hmem (fun q hq => ?_) hdenote hsameItem
      have hunder := hnames _ (mem_placedItems.2 ⟨position, item, hitem, q, hq, rfl⟩)
      rw [Placed.names_under, List.mem_cons, not_or] at hunder
      exact hunder.2
  | @object members hnodup hmembers ih =>
    obtain rfl := eq_object_of_denote leaf hfound
    have hmember : ∀ name value, (name, value) ∈ members →
        name ≠ "" ∧ value.Plain := by
      intro name value hmem
      obtain ⟨child, hdenote, hsameValue⟩ :=
        exists_denote_member_of_sameContent hnodup hsame hmem
      have hunder : ∀ q ∈ placedLeaves value, name ≠ "" ∧ "" ∉ q.names := by
        intro q hq
        have hunder := hnames _ (mem_placedMembers.2 ⟨name, value, hmem, q, hq, rfl⟩)
        rw [Placed.names_under, List.mem_cons, not_or] at hunder
        exact ⟨Ne.symm hunder.1, hunder.2⟩
      -- The member has a leaf, so that its own name is checked at all.
      obtain ⟨q, hq⟩ := List.exists_mem_of_ne_nil _ (placedLeaves_ne_nil hdenote)
      exact ⟨(hunder q hq).1, ih _ hmem (fun q hq => (hunder q hq).2) hdenote hsameValue⟩
    refine .object ?_ ?_ fun member hmem => (hmember member.1 member.2 hmem).2
    · rintro rfl
      simp [denote, denoteMembers] at hfound
    · intro hempty
      obtain ⟨⟨name, value⟩, hmem, hname⟩ := List.mem_map.1 hempty
      exact (hmember name value hmem).1 hname

/-! ## Placeholders and the URI -/

/-- In the context null no token has a value.

**Proof sketch.** A token that is a placeholder leads on by at least one name, and there are none
below null. -/
theorem denoteToken_null (part token : String) :
    denoteToken Expression.compiler part .null token = none := by
  rw [denoteToken]
  cases hparse : Placeholder.parse token with
  | error e => rfl
  | ok p =>
    obtain ⟨inner, -, hspells⟩ := Placeholder.parse_eq_ok_iff.1 hparse
    have hnames : p.names part ≠ [] := by
      by_cases hcontext : p.contextRelative = true
      · rw [Placeholder.names, if_pos hcontext]
        exact hspells.segments_ne_nil
      · rw [Placeholder.names, if_neg hcontext]
        exact List.cons_ne_nil _ _
    obtain ⟨name, names, hcons⟩ := List.exists_cons_of_ne_nil hnames
    simp only [Expression.compiler_source]
    refine Option.eq_none_iff_forall_ne_some.2 fun value hvalue => ?_
    have hreaches := Expression.evaluator_eq_some_iff.1 hvalue
    rw [hcons] at hreaches
    cases hreaches

/-- The context in which the incoming request has the given parameters. -/
def contextOfParameters (params : Json) : Json :=
  .object [("request", .object [("params", params)])]

/-- The context in which the incoming request has the given method. -/
def contextOfMethod (method : Json) : Json :=
  .object [("request", .object [("method", method)])]

/-- **A URI denotes itself in every context exactly where it has no braces.**

**Proof sketch.** A single placeholder has braces and no value in the context null. Any other text
is a template whose parameters a context can choose (`contextOfParameters`), so that it must expand
to itself for all of them (`Uri.parse_expand_eq_self_iff`). -/
theorem denoteUri_eq_self_iff {text : String} :
    (∀ context, denoteUri Expression.compiler context (.string text) = some (.string text)) ↔
      '{' ∉ text.toList ∧ '}' ∉ text.toList := by
  rw [← Uri.parse_expand_eq_self_iff]
  constructor
  · intro h
    have hsingle : ¬isSinglePlaceholder text = true := by
      intro hsingle
      have hnone := h .null
      rw [denoteUri, if_pos hsingle, denoteToken_null] at hnone
      simp at hnone
    cases hparse : Uri.parse text with
    | error reason =>
      have hnone := h .null
      rw [denoteUri, if_neg hsingle, hparse] at hnone
      simp at hnone
    | ok t =>
      refine ⟨t, rfl, fun params => ?_⟩
      have hexpand := h (contextOfParameters params)
      simp only [denoteUri, if_neg hsingle, hparse,
        show denoteParams (contextOfParameters params) = params from rfl] at hexpand
      cases ht : t.expand params with
      | error error => simp [ht, Except.toOption] at hexpand
      | ok expanded => simpa [ht, Except.toOption] using hexpand
  · rintro h context
    have hsingle : ¬isSinglePlaceholder text = true := by
      rw [isSinglePlaceholder_iff]
      rintro ⟨inner, ⟨htext, -, -⟩, -⟩
      obtain ⟨hopening, -⟩ := Uri.parse_expand_eq_self_iff.1 h
      rw [htext] at hopening
      exact hopening List.mem_cons_self
    obtain ⟨t, hparse, hexpand⟩ := h
    simp only [denoteUri, if_neg hsingle, hparse, hexpand]
    rfl

/-! ## Parts -/

/-- Nothing is wrong with the parts of a spec that stands for itself.

**Proof sketch.** One case per constructor of the fault. A URI without braces is read as a template;
the leaves of a plain value are neither placeholders nor behind an empty name (`names_of_plain`). -/
theorem Verbatim.not_partFault {parts : Members} (h : Verbatim parts) {compiler : Compiler}
    {part : String × Json} (hpart : part ∈ parts) (e : TemplateError) :
    ¬PartFault compiler part e := by
  rintro (⟨rfl, -, hfault⟩ | ⟨hmethod, huri, -, hfault⟩)
  · obtain ⟨text, rfl, hopening, hclosing⟩ := h.uri _ hpart
    rcases hfault with hstring | ⟨⟨htext, -, -⟩, -, -⟩ | ⟨-, hreason⟩
    · exact hstring text rfl
    · rw [htext] at hopening
      exact hopening List.mem_cons_self
    · rw [Uri.parse_of_not_mem_braces hopening hclosing] at hreason
      simp at hreason
  · obtain ⟨hname, -, hplain⟩ := h.other _ _ hpart hmethod huri
    obtain ⟨leaf, hleaf, e, hleafFault⟩ := exists_firstFault_iff.1 ⟨e, hfault⟩
    rw [leaves_eq_map_placedLeaves] at hleaf
    obtain ⟨p, hp, rfl⟩ := List.mem_map.1 hleaf
    obtain ⟨hnames, hbraced⟩ := names_of_plain hplain p hp
    rcases hleafFault with hempty | ⟨-, htext, hbraces, -⟩
    · rcases List.mem_cons.1 hempty with hempty | hempty
      · exact hname hempty.symm
      · exact hnames hempty
    · exact hbraced _ _ htext hbraces

/-- The parts of a spec that stands for itself denote themselves.

**Proof sketch.** By the name of the part, with one field of `Verbatim` for each case. -/
theorem Verbatim.denotePart_eq_self {parts : Members} (h : Verbatim parts)
    (hnames : parts.keys.Nodup) (context : Json) {part : String} {value : Json}
    (hpart : (part, value) ∈ parts) :
    denotePart Expression.compiler context part value = some value := by
  by_cases hmethod : part = "method"
  · subst hmethod
    obtain ⟨method, hmem, hne⟩ := h.method
    obtain rfl : value = method :=
      Option.some.inj (((Members.get?_eq_some_iff hnames).2 hpart).symm.trans
        ((Members.get?_eq_some_iff hnames).2 hmem))
    rw [denotePart_of_ne_null _ _ _ hne, if_pos rfl]
  by_cases huri : part = "uri"
  · subst huri
    obtain ⟨text, rfl, hbraces⟩ := h.uri value hpart
    rw [denotePart_of_ne_null _ _ _ (by simp), if_neg (by decide), if_pos rfl]
    exact denoteUri_eq_self_iff.2 hbraces context
  · obtain ⟨-, hfalsy, hplain⟩ := h.other part value hpart hmethod huri
    have hne : value ≠ .null := by
      rintro rfl
      simp [Json.isFalsy] at hfalsy
    rw [denotePart_of_ne_null _ _ _ hne, if_neg hmethod, if_neg huri, if_neg (by simp [hfalsy])]
    exact denote_eq_self hplain _ _ _

/-- The request that the parts denote has the same value at every name. -/
theorem Verbatim.get?_denoteRequest {parts : Members} (h : Verbatim parts)
    (hnames : parts.keys.Nodup) (context : Json) (name : String) :
    (denoteRequest Expression.compiler context parts).get? name = parts.get? name := by
  cases hget : parts.get? name with
  | some value =>
    have hpart := (Members.get?_eq_some_iff hnames).1 hget
    rw [Request.get?_denoteRequest _ _ hnames hpart, h.denotePart_eq_self hnames context hpart,
      Option.some_or]
  | none =>
    have hmem := Members.get?_eq_none_iff.1 hget
    have hmethod : name ≠ "method" := by
      rintro rfl
      obtain ⟨value, hmethod, -⟩ := h.method
      exact hmem (List.mem_map_of_mem (f := Prod.fst) hmethod)
    rw [denoteRequest, get?_foldl_addPart_of_not_mem _ _ hmem, get?_denoteSeed _ hmethod]

/-! ## What shows in a context -/

section Contexts

variable {parts : Members} (hspec : (Json.object parts).WellFormed)
  (hsame : ∀ context, Json.SameContent
    (.object (denoteRequest Expression.compiler context parts)) (.object parts))

include hspec hsame

/-- Every part but the method denotes a value with its content in every context. -/
theorem exists_denotePart_of_sameContent (context : Json) {part : String} {value : Json}
    (hpart : (part, value) ∈ parts) (hmethod : part ≠ "method") :
    ∃ found, denotePart Expression.compiler context part value = some found ∧
      found.SameContent value := by
  have hnames := (Json.wellFormed_object_iff.1 hspec).1
  obtain ⟨found, hfound, hcontent⟩ :=
    (hsame context).exists_get? ((Members.get?_eq_some_iff hnames).2 hpart)
  rw [get?_denoteRequest _ _ hnames hpart, get?_denoteSeed _ hmethod, Option.or_none] at hfound
  exact ⟨found, hfound, hcontent⟩

/-- A part that is null is missing in the context null. -/
theorem ne_null_of_sameContent {part : String} {value : Json} (hpart : (part, value) ∈ parts) :
    value ≠ .null := by
  rintro rfl
  have hnames := (Json.wellFormed_object_iff.1 hspec).1
  obtain ⟨found, hfound, -⟩ :=
    (hsame .null).exists_get? ((Members.get?_eq_some_iff hnames).2 hpart)
  rw [get?_denoteRequest _ _ hnames hpart, denotePart, Option.none_or] at hfound
  simp [denoteSeed, Json.atPath?, Json.at?, Members.get?] at hfound

/-- A spec without a method is given that of the incoming request. -/
theorem exists_method_of_sameContent : ∃ value, ("method", value) ∈ parts ∧ value ≠ .null := by
  have hmem : "method" ∈ parts.keys := by
    by_contra hmem
    have hseed : (denoteRequest Expression.compiler (contextOfMethod (.bool true)) parts).get?
        "method" = some (.bool true) := by
      rw [denoteRequest, get?_foldl_addPart_of_not_mem _ _ hmem]
      rfl
    have hrequest := (hsame (contextOfMethod (.bool true))).mem_keys_iff.not.2 hmem
    rw [← Members.get?_eq_none_iff, hseed] at hrequest
    simp at hrequest
  obtain ⟨⟨name, value⟩, hpart, rfl⟩ := List.mem_map.1 hmem
  exact ⟨value, hpart, ne_null_of_sameContent hspec hsame hpart⟩

/-- The URI is a string without braces. -/
theorem uri_of_sameContent {value : Json} (hpart : ("uri", value) ∈ parts) :
    ∃ text, value = .string text ∧ '{' ∉ text.toList ∧ '}' ∉ text.toList := by
  have hne := ne_null_of_sameContent hspec hsame hpart
  have huri : ∀ context, ∃ found, denoteUri Expression.compiler context value = some found ∧
      found.SameContent value := by
    intro context
    have hfound := exists_denotePart_of_sameContent hspec hsame context hpart (by decide)
    rwa [denotePart_of_ne_null _ _ _ hne, if_neg (by decide), if_pos rfl] at hfound
  cases value with
  | string text =>
    refine ⟨text, rfl, denoteUri_eq_self_iff.1 fun context => ?_⟩
    obtain ⟨found, hfound, hcontent⟩ := huri context
    rw [hfound, hcontent.eq_string]
  | _ =>
    obtain ⟨found, hfound, -⟩ := huri .null
    simp [denoteUri] at hfound

/-- Every other part has a name, is not falsy and is plain.

**Proof sketch.** In the context null no placeholder has a value, so that a value which keeps its
content there is plain (`plain_of_denote`). It has a leaf, and since nothing is wrong with that, the
name of the part is not empty. -/
theorem other_of_sameContent {part : String} {value : Json} (hpart : (part, value) ∈ parts)
    (hmethod : part ≠ "method") (huri : part ≠ "uri")
    (hfaults : ∀ e, ¬PartFault Expression.compiler (part, value) e) :
    part ≠ "" ∧ value.isFalsy = false ∧ value.Plain := by
  have hne := ne_null_of_sameContent hspec hsame hpart
  obtain ⟨found, hfound, hcontent⟩ :=
    exists_denotePart_of_sameContent hspec hsame .null hpart hmethod
  rw [denotePart_of_ne_null _ _ _ hne, if_neg hmethod, if_neg huri] at hfound
  have hfalsy : value.isFalsy = false := by
    by_contra hfalsy
    rw [if_pos (by simpa using hfalsy)] at hfound
    simp at hfound
  rw [if_neg (by simp [hfalsy])] at hfound
  have hpath : ∀ p ∈ placedLeaves value, part ≠ "" ∧ "" ∉ p.names := by
    intro p hp
    rw [← ne_comm, ← not_or, ← List.mem_cons]
    intro hempty
    have hleaf : p.leaf ∈ leaves value := by
      rw [leaves_eq_map_placedLeaves]
      exact List.mem_map_of_mem hp
    have hfault : LeafFault Expression.compiler part p.leaf _ := .emptyName hempty
    obtain ⟨e, he⟩ := exists_firstFault_iff.2 ⟨p.leaf, hleaf, _, hfault⟩
    exact hfaults e (.leaf hmethod huri hfalsy he)
  have hnull : denoteLeaf Expression.compiler part .null .null = some .null := rfl
  have hbraced : ∀ text inner, Braced text.toList inner →
      denoteLeaf Expression.compiler part .null (.string text) = none := by
    intro text inner hbraced
    rw [denoteLeaf, if_pos (isPlaceholder_iff.2 ⟨inner, hbraced⟩), denoteToken_null]
  obtain ⟨p, hp⟩ := List.exists_mem_of_ne_nil _ (placedLeaves_ne_nil hfound)
  exact ⟨(hpath p hp).1, hfalsy, plain_of_denote hnull hbraced
    ((Json.wellFormed_object_iff.1 hspec).2 _ hpart) (fun q hq => (hpath q hq).2) hfound hcontent⟩

/-- **A spec that stands for itself in every context has verbatim parts.** -/
theorem verbatim_of_sameContent
    (hfaults : ∀ part ∈ parts, ∀ e, ¬PartFault Expression.compiler part e) : Verbatim parts where
  method := exists_method_of_sameContent hspec hsame
  uri _ hpart := uri_of_sameContent hspec hsame hpart
  other _ _ hpart hmethod huri :=
    other_of_sameContent hspec hsame hpart hmethod huri (hfaults _ hpart)

end Contexts

/-! ## Specs -/

namespace Template

/-- **The specs that stand for themselves**, for every value: it can be compiled and is evaluated to
its own content in every context if and only if it is an object whose parts are verbatim. So the
method must be there; the URI, if it is there, is a string without braces; and every other part has
a name, is not falsy, and holds no placeholder, no empty container and no empty name at any depth.
Nothing else is asked for: nulls and falsy values below a part, odd names and any method that is not
null are kept.

**Proof sketch.** The request that the parts denote has the same value at every name as the spec
(`Verbatim.get?_denoteRequest`), since plain values denote themselves (`denote_eq_self`). In the
other direction the contexts are null, one with a method and one with an array as a parameter of the
URI (`verbatim_of_sameContent`). -/
theorem compile_evaluate_sameContent_iff {spec : Json} (hspec : spec.WellFormed) :
    (∃ t, compile spec = .ok t ∧ ∀ context, (t.evaluate context).SameContent spec) ↔
      ∃ parts, spec = .object parts ∧ Verbatim parts := by
  constructor
  · rintro ⟨t, hcompile, hsame⟩
    obtain ⟨parts, rfl, hparts⟩ := compileWith_eq_ok_iff.1 hcompile
    refine ⟨parts, rfl, verbatim_of_sameContent hspec (fun context => ?_)
      ((exists_compileWith_object_iff hspec).1 ⟨t, hcompile⟩)⟩
    rw [← evaluate_eq_denoteRequest hspec hparts]
    exact hsame context
  · rintro ⟨parts, rfl, h⟩
    obtain ⟨t, hcompile⟩ := (exists_compileWith_object_iff hspec).2
      fun part hpart e => h.not_partFault hpart e
    obtain ⟨parts', heq, hparts⟩ := compileWith_eq_ok_iff.1 hcompile
    obtain rfl := Json.object.inj heq
    refine ⟨t, hcompile, fun context => ?_⟩
    rw [evaluate_eq_denoteRequest hspec hparts]
    exact Json.sameContent_object_of_get?_eq
      (h.get?_denoteRequest (Json.wellFormed_object_iff.1 hspec).1 context)

/-- A spec with an array for its method, dotted and braced names, nulls and falsy values below a
part, and texts that are almost placeholders.

**Proof sketch.** The conditions of `Verbatim` one by one: there is a method that is not null, the
text of the URI has no braces, and below the other part no text is a placeholder and no container is
empty. -/
theorem compile_evaluate_sameContent_odd_values :
    let spec := Json.object [("uri", .string "/a b?c=1"), ("method", .array []),
      ("{x}", .object [("a.b", .null), (".", .array [.null, .number (.integer 0), .string "",
        .string "\x7b\x7d", .string "\x7ba\x7d ", .string "\x7ba\x7d\x7d"])])]
    spec.WellFormed ∧
      ∃ t, compile spec = .ok t ∧ ∀ context, (t.evaluate context).SameContent spec := by
  intro spec
  have hspec : spec.WellFormed := by simp [spec, Members.keys, UInt64.size]
  have hstring : ∀ text, isPlaceholder text = false → (Json.string text).Plain := by
    intro text htext
    refine .string fun inner hbraced => ?_
    rw [isPlaceholder_iff.2 ⟨inner, hbraced⟩] at htext
    simp at htext
  refine ⟨hspec, (compile_evaluate_sameContent_iff hspec).2 ⟨_, rfl, ?_, ?_, ?_⟩⟩
  · exact ⟨.array [], by simp, by simp⟩
  · intro value hvalue
    obtain rfl : value = .string "/a b?c=1" := by simpa using hvalue
    exact ⟨_, rfl, by decide, by decide⟩
  · intro part value hvalue hmethod huri
    simp only [List.mem_cons, Prod.mk.injEq, List.not_mem_nil, or_false, huri, hmethod, false_and,
      false_or] at hvalue
    obtain ⟨rfl, rfl⟩ := hvalue
    refine ⟨by decide, rfl, .object (by simp) (by decide) ?_⟩
    simp only [List.forall_mem_cons, List.not_mem_nil, false_imp_iff, implies_true, and_true]
    refine ⟨.null, .array (by simp) ?_⟩
    simp only [List.forall_mem_cons, List.not_mem_nil, false_imp_iff, implies_true, and_true]
    exact ⟨.null, .number _, hstring _ (by decide), hstring _ (by decide), hstring _ (by decide),
      hstring _ (by decide)⟩

end Template

end Request

end Remap
