import Remap.Proofs.Json.Nodes
import Remap.Proofs.Request.Compilation
import Remap.Proofs.Request.Order

set_option relaxedAutoImplicit false
set_option autoImplicit false

/-!
# The assignments of a template

A template has one assignment for each leaf of its spec, in the order of the document. The targets
of the leaves do not overlap, even where their paths are printed alike because a name holds a dot.

## Main definitions

* `Remap.Request.LeafContent`, `Remap.Request.UriContent` — what leaves and URIs are compiled to.
* `Remap.Request.PartAssignments` — what the parts of a spec are compiled to.

## Main results

* `Remap.Request.enumerates_placedLeaves` — the leaves that are compiled are those of the tree.
* `Remap.Request.Template.assignments_of_compileWith` — the assignments of a template.
-/

namespace Remap.Request

open Json (Enumerates Key)

/-! ## The leaves that are compiled -/

/-- A leaf as a node: the keys that lead to it, and its value. -/
def Placed.node (p : Placed) : List Key × Json :=
  (p.steps.map Step.key, p.value)

/-- The step to a child. -/
def childStep (child : Key × Json) : Step :=
  ⟨child.1, Container.ofSpec (some child.2)⟩

/-- The leaves of the members of an object are those of its children. -/
theorem placedMembers_eq_flatMap (members : Members) :
    placedMembers members = (Json.object members).children.flatMap fun child =>
      (placedLeaves child.2).map (Placed.under (childStep child)) := by
  induction members with
  | nil => rfl
  | cons member rest ih =>
    rw [placedMembers, ih]
    rfl

/-- The leaves of items, the first of which has the given position, are those of each of them. -/
theorem placedItems_eq_flatMap (start : Nat) (items : List Json) :
    placedItems start items = (items.mapIdx fun position item =>
        (Key.index (start + position), item)).flatMap fun child =>
      (placedLeaves child.2).map (Placed.under (childStep child)) := by
  induction items generalizing start with
  | nil => rfl
  | cons item rest ih =>
    rw [placedItems, ih, List.mapIdx_cons, List.flatMap_cons]
    simp only [Nat.add_zero, Nat.add_assoc, Nat.add_comm 1]
    rfl

/-- The leaves of an array are those of its children. -/
theorem placedLeaves_array_eq_flatMap (items : List Json) :
    placedLeaves (.array items) = (Json.array items).children.flatMap fun child =>
      (placedLeaves child.2).map (Placed.under (childStep child)) := by
  rw [placedLeaves, placedItems_eq_flatMap]
  simp only [Nat.zero_add]
  rfl

/-- The nodes of the leaves of children lie below the keys of the children. -/
theorem map_node_flatMap (children : List (Key × Json)) :
    (children.flatMap fun child =>
      (placedLeaves child.2).map (Placed.under (childStep child))).map Placed.node =
    children.flatMap fun child =>
      ((placedLeaves child.2).map Placed.node).map fun node => (child.1 :: node.1, node.2) := by
  rw [List.map_flatMap]
  simp only [List.map_map]
  rfl

/-- **The leaves that are compiled are the nodes that are no containers**, each once, in order. -/
theorem enumerates_placedLeaves {value : Json} (hvalue : value.WellFormed) :
    Enumerates value ((placedLeaves value).map Placed.node) := by
  induction hvalue with
  | null | bool | number | string => exact Json.enumerates_scalar rfl
  | @array items _ _ ih =>
    rw [placedLeaves_array_eq_flatMap, map_node_flatMap]
    refine Json.enumerates_flatMap_children rfl (Json.pairwise_children_array items)
      (fun child => (placedLeaves child).map Placed.node) fun child hchild => ?_
    obtain ⟨position, hlt, rfl⟩ := List.mem_mapIdx.1 hchild
    exact ih _ (List.getElem_mem hlt)
  | @object members hnames _ ih =>
    rw [placedLeaves, placedMembers_eq_flatMap, map_node_flatMap]
    refine Json.enumerates_flatMap_children rfl (Json.pairwise_children_object hnames)
      (fun child => (placedLeaves child).map Placed.node) fun child hchild => ?_
    obtain ⟨member, hmember, rfl⟩ := List.mem_map.1 hchild
    exact ih member hmember

/-! ## Contents -/

/-- What a placeholder between braces in the given part is compiled to: the source of its
expression, with what the compiler of expressions makes of it. -/
def TokenContent (compiler : Compiler) (part : String) (inner : List Char) (content : Content) :
    Prop :=
  ∃ (p : Placeholder) (evaluator : Evaluator), p.Spells inner ∧
    compiler (p.expression part).source = .ok evaluator ∧
    content = .expression (p.expression part).source evaluator

/-- What a leaf of the given part is compiled to: a string in braces as a placeholder, any other
value to itself. -/
inductive LeafContent (compiler : Compiler) (part : String) : Json → Content → Prop
  | token {text : String} {inner : List Char} (hbraced : Braced text.toList inner)
      {content : Content} (h : TokenContent compiler part inner content) :
      LeafContent compiler part (.string text) content
  | literal {value : Json} (h : ∀ text inner, value = .string text → ¬Braced text.toList inner) :
      LeafContent compiler part value (.literal value)

/-- What the URI is compiled to: a string in braces with no brace in it as a placeholder, any other
string as a URI template. -/
inductive UriContent (compiler : Compiler) : Json → Content → Prop
  | token {text : String} {inner : List Char} (hbraced : Braced text.toList inner)
      (hopen : '{' ∉ inner) {content : Content} (h : TokenContent compiler "uri" inner content) :
      UriContent compiler (.string text) content
  | template {text : String} (hother : ¬∃ inner, Braced text.toList inner ∧ '{' ∉ inner)
      {template : Uri.Template} (h : Uri.parse text = .ok template) :
      UriContent compiler (.string text) (.uri template)

/-- A token is compiled to the content of the placeholder between its braces. -/
theorem tokenContent_of_compileToken {compiler : Compiler} {part token : String}
    {inner : List Char} (hbraced : Braced token.toList inner) {content : Content}
    (h : compileToken compiler part token = .ok content) :
    TokenContent compiler part inner content := by
  obtain ⟨p, evaluator, hparse, hevaluator, rfl⟩ := compileToken_eq_ok_iff.1 h
  obtain ⟨inner', hbraced', hspells⟩ := Placeholder.parse_eq_ok_iff.1 hparse
  obtain rfl := hbraced.unique hbraced'
  exact ⟨p, evaluator, hspells, hevaluator, rfl⟩

/-- A leaf is compiled to the content that its value stands for. -/
theorem Leaf.leafContent_of_content {compiler : Compiler} {part : String} {leaf : Leaf}
    {content : Content} (h : leaf.content compiler part = .ok content) :
    LeafContent compiler part leaf.value content := by
  rcases content_eq_ok_cases h with ⟨text, hvalue, htoken, hcontent⟩ | ⟨hother, rfl⟩
  · obtain ⟨inner, hbraced⟩ := isPlaceholder_iff.1 htoken
    rw [hvalue]
    exact .token hbraced (tokenContent_of_compileToken hbraced hcontent)
  · refine .literal fun text inner hvalue hbraced => ?_
    have htoken := isPlaceholder_iff.2 ⟨inner, hbraced⟩
    simp [hother text hvalue] at htoken

/-- The URI is compiled to the content that it stands for. -/
theorem Template.uriContent_of_uriContent {compiler : Compiler} {text : String} {content : Content}
    (h : uriContent compiler text = .ok content) : UriContent compiler (.string text) content := by
  rcases uriContent_eq_ok_cases h with ⟨htoken, hcontent⟩ | ⟨hother, template, htemplate, rfl⟩
  · obtain ⟨inner, hbraced, hopen⟩ := isSinglePlaceholder_iff.1 htoken
    exact .token hbraced hopen (tokenContent_of_compileToken hbraced hcontent)
  · exact .template (mt isSinglePlaceholder_iff.2 (Bool.eq_false_iff.1 hother)) htemplate

/-! ## Parts -/

/-- The assignment is for the place that the keys lead to in the part: its keys are the name of the
part and those keys, and its path is made of their names and decimal positions. -/
structure Assignment.At (a : Assignment) (part : String) (keys : List Key) : Prop where
  path : a.target.path = Text.dotted (part :: keys.map Key.name)
  keys : a.target.keys = .field part :: keys

/-- What a part of a spec is compiled to. A null part leaves nothing, and neither does any other
falsy one but the method and the URI. These two leave one assignment each. Any other part leaves one
assignment for each of its leaves, in their order. -/
inductive PartAssignments (compiler : Compiler) : String × Json → List Assignment → Prop
  | null (part : String) : PartAssignments compiler (part, .null) []
  | falsy {part : String} (hmethod : part ≠ "method") (huri : part ≠ "uri") {value : Json}
      (hvalue : value.isFalsy = true) : PartAssignments compiler (part, value) []
  | method {value : Json} (hvalue : value ≠ .null) {a : Assignment} (hplace : a.At "method" [])
      (hcontent : a.content = .literal value) : PartAssignments compiler ("method", value) [a]
  | uri {value : Json} {a : Assignment} (hplace : a.At "uri" [])
      (hcontent : UriContent compiler value a.content) : PartAssignments compiler ("uri", value) [a]
  | leaves {part : String} (hmethod : part ≠ "method") (huri : part ≠ "uri") {value : Json}
      (hvalue : value.isFalsy = false) {nodes : List (List Key × Json)}
      (hnodes : value.Enumerates nodes) {assignments : List Assignment}
      (h : List.Forall₂
        (fun node a => a.At part node.1 ∧ LeafContent compiler part node.2 a.content)
        nodes assignments) : PartAssignments compiler (part, value) assignments

/-- A part is compiled to its assignments. -/
theorem Template.partAssignments_of_compilePart {compiler : Compiler} {parts : Members}
    (hspec : (Json.object parts).WellFormed) {part : String} {value : Json}
    (hpart : (part, value) ∈ parts) {assignments : List Assignment}
    (h : compilePart compiler (.object parts) part value = .ok assignments) :
    PartAssignments compiler (part, value) assignments := by
  rcases compilePart_eq_ok_cases h with
    ⟨rfl, rfl⟩ | ⟨-, hmethod, huri, hfalsy, rfl⟩ | ⟨hnull, rfl, a, ha, rfl⟩ |
    ⟨-, rfl, a, ha, rfl⟩ | ⟨-, hmethod, huri, hfalsy, hleaves⟩
  · exact .null part
  · exact .falsy hmethod huri hfalsy
  · obtain rfl := eq_of_compileMethod hspec hpart ha
    exact .method hnull ⟨rfl, rfl⟩ rfl
  · obtain ⟨text, content, rfl, hcontent, rfl⟩ := exists_of_compileUri hspec hpart ha
    exact .uri ⟨rfl, rfl⟩ (uriContent_of_uriContent hcontent)
  · have hvalue := (Json.wellFormed_object_iff.1 hspec).2 _ hpart
    refine .leaves hmethod huri hfalsy (enumerates_placedLeaves hvalue) ?_
    rw [List.forall₂_map_left_iff]
    refine (forall₂_exists_of_compileLeaves hspec hpart hleaves).imp ?_
    rintro p a ⟨content, hcontent, rfl⟩
    refine ⟨⟨?_, rfl⟩, Leaf.leafContent_of_content hcontent⟩
    rw [Placed.node, List.map_map]
    rfl

/-! ## Templates -/

namespace Template

/-- The parts of a spec are compiled one after the other. -/
theorem forall₂_of_compileParts {compiler : Compiler} {parts : Members}
    (hspec : (Json.object parts).WellFormed) {rest : Members} (hrest : rest ⊆ parts)
    {assignments : List Assignment}
    (h : compileParts compiler (.object parts) rest = .ok assignments) :
    ∃ owns, List.Forall₂ (PartAssignments compiler) rest owns ∧ assignments = owns.flatten := by
  induction rest generalizing assignments with
  | nil =>
    obtain rfl := Except.ok.inj h
    exact ⟨[], .nil, rfl⟩
  | cons member rest ih =>
    obtain ⟨part, value⟩ := member
    rw [List.cons_subset] at hrest
    obtain ⟨own, others, hown, hothers, rfl⟩ := compileParts_cons_eq_ok_iff.1 h
    obtain ⟨owns, howns, rfl⟩ := ih hrest.2 hothers
    exact ⟨own :: owns, .cons (partAssignments_of_compilePart hspec hrest.1 hown) howns, rfl⟩

/-- **The assignments of a template are the leaves of its spec**, each exactly once, in the order of
the document, at targets that do not overlap. For every compiler of expressions and every spec that
it lets compile, the assignments are those of the parts, one part after the other; and the keys of
no target are the first keys of another one, even where the paths are printed alike.

**Proof sketch.** Every part is compiled to its own assignments (`partAssignments_of_compilePart`),
and the leaves that are compiled are those of the tree (`enumerates_placedLeaves`). The paths of two
assignments part from each other (`pairwise_diverge_compileParts`), so that neither list of keys
starts with the other (`Diverge.not_prefix`). -/
theorem assignments_of_compileWith {compiler : Compiler} {spec : Json} (hspec : spec.WellFormed)
    {t : Template} (h : compileWith compiler spec = .ok t) :
    (∃ parts owns, spec = .object parts ∧ List.Forall₂ (PartAssignments compiler) parts owns ∧
      t.assignments = owns.flatten) ∧
    t.assignments.Pairwise fun a b =>
      ¬a.target.keys <+: b.target.keys ∧ ¬b.target.keys <+: a.target.keys := by
  obtain ⟨parts, rfl, hparts⟩ := compileWith_eq_ok_iff.1 h
  have hnames := (Json.wellFormed_object_iff.1 hspec).1
  obtain ⟨owns, howns, hflatten⟩ := forall₂_of_compileParts hspec (List.Subset.refl _) hparts
  refine ⟨⟨parts, owns, rfl, howns, hflatten⟩, ?_⟩
  exact (pairwise_diverge_compileParts hspec (List.Subset.refl _) hnames hparts).imp
    fun hpaths => ⟨hpaths.not_prefix, hpaths.symm.not_prefix⟩

/-- A literal and a placeholder with the same printed path, behind a part that counts as absent. -/
theorem assignments_of_compileWith_printed_alike :
    ∃ t : Template,
      compileWith (fun source => if source = "m.request.body.id" then .ok some else .error "")
        (.object [("query", .bool false),
          ("body", .object [("a.b", .string "x"), ("a", .object [("b", .string "{id}")])])]) =
        .ok t ∧
      t.assignments.map (fun a => a.target.path) = ["body.a.b", "body.a.b"] ∧
      t.assignments.Pairwise fun a b =>
        ¬a.target.keys <+: b.target.keys ∧ ¬b.target.keys <+: a.target.keys := by
  refine Exists.imp (fun t ht => ⟨ht, ?_, ?_⟩) ⟨_, rfl⟩
  · obtain rfl := Except.ok.inj ht
    rfl
  · exact (assignments_of_compileWith (by simp [Members.keys]) ht).2

end Template

end Remap.Request
