import Remap.Proofs.Outcome
import Remap.Proofs.Request.Execution

set_option relaxedAutoImplicit false
set_option autoImplicit false

/-!
# Evaluation of templates

Compiling a spec cuts it into assignments, and evaluating the template runs them one after the other
over one request. The outcome is what the spec denotes, read off the tree.

## Main definitions

* `Remap.Request.Assignment.found?` — what an assignment writes, and where.

## Main results

* `Remap.Request.Leaf.exists_of_compile` — what a leaf of a spec is compiled to.
* `Remap.Request.Template.runAll_compilePart`, `Remap.Request.Template.runAll_compileParts` — the
  assignments of one part, and of parts in order, do what the parts denote.
* `Remap.Request.Template.evaluate_eq_denoteRequest` — evaluation gives what the spec denotes.
-/

namespace Remap.Request

/-! ## What is taken from the incoming request -/

/-- A member of a member stands at the path of the two names. -/
theorem bind_member?_eq_atPath? (context : Json) (outer inner : String) :
    (context.member? outer).bind (·.member? inner) =
      context.atPath? [.field outer, .field inner] := by
  have hmember : ∀ (value : Json) (name : String),
      value.member? name = value.at? (.field name) := by
    intro value name
    cases value <;> rfl
  rw [hmember, Json.atPath?]
  congr 1
  funext value
  rw [hmember, Json.atPath?]
  cases value.at? (.field inner) <;> rfl

/-- The parameters of the incoming request are what stands at `request.params` in the context. -/
theorem parameters_eq_denoteParams (context : Json) :
    parameters context = denoteParams context := by
  rw [parameters, bind_member?_eq_atPath?, denoteParams]

/-- The request starts with what stands at `request.method` in the context. -/
theorem Template.seed_eq_denoteSeed (context : Json) : seed context = denoteSeed context := by
  rw [seed, bind_member?_eq_atPath?]
  rfl

/-! ## Contents -/

/-- The content of a token has the value that the token denotes. -/
theorem value?_of_compileToken {compiler : Compiler} {part token : String} {content : Content}
    (h : compileToken compiler part token = .ok content) (context : Json) :
    content.value? context = denoteToken compiler part context token := by
  obtain ⟨p, evaluator, hparse, hevaluator, rfl⟩ := compileToken_eq_ok_iff.1 h
  simp only [denoteToken, hparse, hevaluator]
  rfl

/-- The content of a leaf has the value that the leaf denotes. -/
theorem Leaf.value?_of_content {compiler : Compiler} {part : String} {leaf : Leaf}
    {content : Content} (h : leaf.content compiler part = .ok content) (context : Json) :
    content.value? context = denoteLeaf compiler part context leaf.value := by
  rcases content_eq_ok_cases h with ⟨text, hvalue, htoken, hcontent⟩ | ⟨hother, rfl⟩
  · rw [hvalue, denoteLeaf, if_pos htoken]
    exact value?_of_compileToken hcontent context
  · cases hvalue : leaf.value with
    | string text =>
      rw [denoteLeaf, if_neg (by simp [hother text hvalue])]
      rfl
    | _ => rfl

/-- The content of the URI has the value that the URI denotes. -/
theorem Template.value?_of_uriContent {compiler : Compiler} {text : String} {content : Content}
    (h : uriContent compiler text = .ok content) (context : Json) :
    content.value? context = denoteUri compiler context (.string text) := by
  rw [denoteUri]
  rcases uriContent_eq_ok_cases h with ⟨htoken, hcontent⟩ | ⟨hother, template, htemplate, rfl⟩
  · rw [if_pos htoken]
    exact value?_of_compileToken hcontent context
  · simp only [if_neg (Bool.eq_false_iff.1 hother), htemplate, Content.value?,
      parameters_eq_denoteParams]
    cases template.expand (denoteParams context) <;> rfl

/-! ## Assignments -/

/-- What an assignment writes in a context, and where. -/
def Assignment.found? (context : Json) (a : Assignment) : Option Placed :=
  (a.content.value? context).map (Placed.mk a.target.steps)

namespace Template

/-- The method is compiled to one assignment at its own name, with its value as it is. -/
theorem eq_of_compileMethod {parts : Members} (hspec : (Json.object parts).WellFormed)
    {value : Json} (hpart : ("method", value) ∈ parts) {a : Assignment}
    (h : compileMethod (.object parts) value = .ok a) :
    a = ⟨⟨Text.dotted ["method"], [memberStep "method" value]⟩, .literal value⟩ := by
  rw [compileMethod, ofSegments_part hspec hpart (by decide)] at h
  exact (Except.ok.inj h).symm

/-- The URI is a string and is compiled to one assignment at its own name. -/
theorem exists_of_compileUri {compiler : Compiler} {parts : Members}
    (hspec : (Json.object parts).WellFormed) {value : Json} (hpart : ("uri", value) ∈ parts)
    {a : Assignment} (h : compileUri compiler (.object parts) value = .ok a) :
    ∃ text content, value = .string text ∧ uriContent compiler text = .ok content ∧
      a = ⟨⟨Text.dotted ["uri"], [memberStep "uri" value]⟩, content⟩ := by
  obtain ⟨text, target, content, hvalue, htarget, hcontent, rfl⟩ := compileUri_eq_ok_iff.1 h
  rw [ofSegments_part hspec hpart (by decide)] at htarget
  obtain rfl := Except.ok.inj htarget
  exact ⟨text, content, hvalue, hcontent, rfl⟩

/-- An assignment at the name of a part inserts what it finds. -/
theorem run_eq_insert {a : Assignment} {part : String} {value : Json}
    (hsteps : a.target.steps = [memberStep part value]) (context : Json) (request : Members) :
    a.run context request =
      match a.content.value? context with
      | some found => request.insert part found
      | none => request := by
  rw [Assignment.run]
  cases a.content.value? context with
  | none => rfl
  | some found =>
    simp only [Target.write, hsteps]
    rfl

/-- Running assignments is writing what they find into the request, as into a slot. -/
theorem object_runAll {assignments : List Assignment}
    (hsteps : ∀ a ∈ assignments, a.target.steps ≠ []) (context : Json) (request : Members) :
    Json.object (runAll assignments context request) =
      fill .object (assignments.filterMap (Assignment.found? context)) (.object request) := by
  induction assignments generalizing request with
  | nil => rfl
  | cons a rest ih =>
    rw [List.forall_mem_cons] at hsteps
    obtain ⟨step, steps, ha⟩ := List.exists_cons_of_ne_nil hsteps.1
    rw [runAll, List.foldl_cons, ← runAll, ih hsteps.2, List.filterMap_cons, Assignment.found?,
      Assignment.run]
    cases a.content.value? context with
    | none => rfl
    | some value =>
      simp only [Option.map_some, fill_cons, Target.write, ha, writeAlong_object]

end Template

/-! ## Parts -/

section Part

variable {compiler : Compiler} {parts : Members} {part : String} {value : Json}
  (hspec : (Json.object parts).WellFormed) (hpart : (part, value) ∈ parts)

include hspec hpart

/-- **What a leaf of a spec is compiled to**: its content, at its own steps. -/
theorem Leaf.exists_of_compile {p : Placed} (hp : p ∈ placedLeaves value) {a : Assignment}
    (h : p.leaf.compile compiler (.object parts) part = .ok a) :
    ∃ content, p.leaf.content compiler part = .ok content ∧
      a = ⟨⟨Text.dotted (part :: p.names), memberStep part value :: p.steps⟩, content⟩ := by
  simp only [Leaf.compile, Placed.leaf, ofSegments_names hspec hpart hp] at h
  by_cases hempty : "" ∈ part :: p.names
  · simp [hempty] at h
  · rw [if_neg hempty] at h
    obtain ⟨content, hcontent, rfl⟩ := map_eq_ok_iff.1 h
    exact ⟨content, hcontent, rfl⟩

/-- The assignments of a part are those of its leaves, one by one. -/
theorem forall₂_exists_of_compileLeaves {assignments : List Assignment}
    (h : compileLeaves compiler (.object parts) value part = .ok assignments) :
    List.Forall₂ (fun p a => ∃ content, p.leaf.content compiler part = .ok content ∧
      a = ⟨⟨Text.dotted (part :: p.names), memberStep part value :: p.steps⟩, content⟩)
      (placedLeaves value) assignments := by
  rw [compileLeaves, leaves_eq_map_placedLeaves, mapM_eq_ok_iff, List.forall₂_map_left_iff] at h
  refine List.Forall₂.imp ?_ ((List.forall₂_and_left _ _).2 ⟨fun p hp => hp, h⟩)
  rintro p a ⟨hp, hcompile⟩
  exact Leaf.exists_of_compile hspec hpart hp hcompile

/-- They are written at the steps of the leaves, and their values are those that the leaves
denote. -/
theorem forall₂_of_compileLeaves {assignments : List Assignment}
    (h : compileLeaves compiler (.object parts) value part = .ok assignments) (context : Json) :
    List.Forall₂ (fun p a => a.target.steps = memberStep part value :: p.steps ∧
      a.content.value? context = denoteLeaf compiler part context p.value)
      (placedLeaves value) assignments := by
  refine (forall₂_exists_of_compileLeaves hspec hpart h).imp ?_
  rintro p a ⟨content, hcontent, rfl⟩
  exact ⟨rfl, Leaf.value?_of_content hcontent context⟩

/-- **What a part of a spec is compiled to**: to nothing where it denotes nothing in any context; to
one assignment at its own name with what it denotes; or, under another name than that of the method,
to the assignments of its leaves. -/
theorem Template.compilePart_cases {assignments : List Assignment}
    (h : compilePart compiler (.object parts) part value = .ok assignments) (context : Json) :
    (assignments = [] ∧ denotePart compiler context part value = none) ∨
    (∃ a, assignments = [a] ∧ a.target.steps = [memberStep part value] ∧
      a.content.value? context = denotePart compiler context part value) ∨
    (part ≠ "method" ∧ compileLeaves compiler (.object parts) value part = .ok assignments ∧
      denotePart compiler context part value =
        denote (denoteLeaf compiler part context) value) := by
  rcases compilePart_eq_ok_cases h with
    ⟨rfl, rfl⟩ | ⟨hnull, hmethod, huri, hfalsy, rfl⟩ | ⟨hnull, rfl, a, ha, rfl⟩ |
    ⟨hnull, rfl, a, ha, rfl⟩ | ⟨hnull, hmethod, huri, hfalsy, hleaves⟩
  · left; exact ⟨rfl, rfl⟩
  · rw [denotePart_of_ne_null _ _ _ hnull, if_neg hmethod, if_neg huri, if_pos hfalsy]
    left; exact ⟨rfl, rfl⟩
  · obtain rfl := eq_of_compileMethod hspec hpart ha
    rw [denotePart_of_ne_null _ _ _ hnull, if_pos rfl]
    right; left; exact ⟨_, rfl, rfl, rfl⟩
  · obtain ⟨text, content, rfl, hcontent, rfl⟩ := exists_of_compileUri hspec hpart ha
    rw [denotePart_of_ne_null _ _ _ hnull, if_neg (by decide), if_pos rfl]
    right; left; exact ⟨_, rfl, rfl, value?_of_uriContent hcontent context⟩
  · rw [denotePart_of_ne_null _ _ _ hnull, if_neg hmethod, if_neg huri, if_neg (by simp [hfalsy])]
    right; right; exact ⟨hmethod, hleaves, rfl⟩

/-- Running the assignments of the leaves of a part adds the value of the tree to the request, if it
has one, unless the request has the part already.

**Proof sketch.** What the assignments find are the values of the leaves, each below the name of the
part. Running them is writing these, so they run in the slot of the part, and there they leave the
value of the tree (`fills_of_wellFormed`). -/
theorem Template.runAll_compileLeaves {assignments : List Assignment}
    (h : compileLeaves compiler (.object parts) value part = .ok assignments) (context : Json)
    {request : Members} (hrequest : part ∉ request.keys) :
    runAll assignments context request =
      match denote (denoteLeaf compiler part context) value with
      | some found => request.insert part found
      | none => request := by
  have hleaves := forall₂_of_compileLeaves hspec hpart h context
  have hsteps : ∀ a ∈ assignments, a.target.steps ≠ [] := fun a ha => by
    obtain ⟨p, -, hp, -⟩ := exists_mem_of_forall₂ hleaves ha
    simp [hp]
  have hfound : assignments.filterMap (Assignment.found? context) =
      (foundLeaves (denoteLeaf compiler part context) value).map
        (Placed.under (memberStep part value)) := by
    rw [foundLeaves, ← filterMap_found?_map_under, List.filterMap_map]
    refine (filterMap_eq_of_forall₂ (hleaves.imp ?_)).symm
    rintro p a ⟨hp, hvalue⟩
    rw [Function.comp_apply, Placed.found?, Assignment.found?, hp, hvalue]
    rfl
  apply Json.object.inj
  rw [object_runAll hsteps, hfound]
  cases hvalue : denote (denoteLeaf compiler part context) value with
  | none =>
    rw [(foundLeaves_eq_nil_iff _ value).2 hvalue]
    rfl
  | some found =>
    have hfills := fills_of_wellFormed (denoteLeaf compiler part context)
      ((Json.wellFormed_object_iff.1 hspec).2 _ hpart) found hvalue
    rw [fill_map_under_object _ _ (foundLeaves_ne_nil _ hvalue),
      show (memberStep part value).key.name = part from rfl, Members.update_of_not_mem hrequest,
      show fill (memberStep part value).container _ .null = found from hfills]
    simp only [Members.insert, Members.update_of_not_mem hrequest]

/-- **The assignments of one part do what the part denotes.** Only the method may be in the request
before. -/
theorem Template.runAll_compilePart {assignments : List Assignment}
    (h : compilePart compiler (.object parts) part value = .ok assignments) (context : Json)
    {request : Members} (hrequest : part ≠ "method" → part ∉ request.keys) :
    runAll assignments context request = addPart compiler context request (part, value) := by
  rw [addPart]
  rcases compilePart_cases hspec hpart h context with
    ⟨rfl, hnone⟩ | ⟨a, rfl, hsteps, hvalue⟩ | ⟨hmethod, hleaves, hvalue⟩
  · rw [hnone]
    rfl
  · rw [← hvalue]
    exact run_eq_insert hsteps context request
  · rw [hvalue]
    exact runAll_compileLeaves hspec hpart hleaves context (hrequest hmethod)

end Part

/-! ## Templates -/

namespace Template

/-- A part adds at most its own name to the request. -/
theorem mem_keys_addPart {compiler : Compiler} {context : Json} {request : Members}
    {part : String × Json} {name : String}
    (h : name ∈ (addPart compiler context request part).keys) :
    name = part.1 ∨ name ∈ request.keys := by
  rw [addPart] at h
  cases hvalue : denotePart compiler context part.1 part.2 with
  | none =>
    simp only [hvalue] at h
    right; exact h
  | some value =>
    simp only [hvalue, Members.insert, Members.keys_update] at h
    by_cases hpart : part.1 ∈ request.keys
    · rw [if_pos hpart] at h
      right; exact h
    · rw [if_neg hpart, List.mem_append, List.mem_singleton] at h
      exact h.symm

/-- **The assignments of parts, run in order, do what the parts denote.** No later part but the
method is in the request when its turn comes.

**Proof sketch.** Induction on the parts. The names of a spec are distinct, so the part that has
just been added is none of those that follow. -/
theorem runAll_compileParts {compiler : Compiler} {parts : Members}
    (hspec : (Json.object parts).WellFormed) {rest : Members} (hrest : rest ⊆ parts)
    (hnames : rest.keys.Nodup) {assignments : List Assignment}
    (h : compileParts compiler (.object parts) rest = .ok assignments) (context : Json)
    {request : Members}
    (hrequest : ∀ name ∈ rest.keys, name ≠ "method" → name ∉ request.keys) :
    runAll assignments context request = rest.foldl (addPart compiler context) request := by
  induction rest generalizing request assignments with
  | nil =>
    obtain rfl := Except.ok.inj h
    rfl
  | cons member rest ih =>
    obtain ⟨part, value⟩ := member
    rw [List.cons_subset] at hrest
    rw [Members.keys, List.map_cons, List.nodup_cons] at hnames
    rw [Members.keys, List.map_cons, List.forall_mem_cons] at hrequest
    obtain ⟨first, others, hfirst, hothers, rfl⟩ := compileParts_cons_eq_ok_iff.1 h
    rw [runAll, List.foldl_append, List.foldl_cons, ← runAll, ← runAll,
      runAll_compilePart hspec hrest.1 hfirst context hrequest.1]
    refine ih hrest.2 hnames.2 hothers ?_
    intro name hname hmethod hmem
    rcases mem_keys_addPart hmem with rfl | hmem
    · exact hnames.1 hname
    · exact hrequest.2 name hname hmethod hmem

/-- An assignment of a list of parts comes from one of them. -/
theorem exists_of_mem_compileParts {compiler : Compiler} {spec : Json} {parts : Members}
    {assignments : List Assignment} (h : compileParts compiler spec parts = .ok assignments)
    {a : Assignment} (ha : a ∈ assignments) :
    ∃ part value own, (part, value) ∈ parts ∧ compilePart compiler spec part value = .ok own ∧
      a ∈ own := by
  induction parts generalizing assignments with
  | nil =>
    obtain rfl := Except.ok.inj h
    simp at ha
  | cons member rest ih =>
    obtain ⟨part, value⟩ := member
    obtain ⟨own, others, hown, hothers, rfl⟩ := compileParts_cons_eq_ok_iff.1 h
    rcases List.mem_append.1 ha with ha | ha
    · exact ⟨part, value, own, List.mem_cons_self, hown, ha⟩
    · obtain ⟨part', value', own', hmem, hown', ha'⟩ := ih hothers ha
      exact ⟨part', value', own', List.mem_cons_of_mem _ hmem, hown', ha'⟩

/-- A spec that can be compiled is an object whose parts can be compiled. -/
theorem compileWith_eq_ok_iff {compiler : Compiler} {spec : Json} {t : Template} :
    compileWith compiler spec = .ok t ↔
      ∃ parts, spec = .object parts ∧ compileParts compiler spec parts = .ok t.assignments := by
  cases spec with
  | object parts =>
    rw [compileWith, map_eq_ok_iff]
    constructor
    · rintro ⟨assignments, h, rfl⟩
      exact ⟨parts, rfl, h⟩
    · rintro ⟨parts', heq, h⟩
      obtain rfl := Json.object.inj heq
      exact ⟨t.assignments, h, rfl⟩
  | _ => simp [compileWith]

/-- Evaluation gives the request that the parts of the spec denote. -/
theorem evaluate_eq_denoteRequest {compiler : Compiler} {parts : Members}
    (hspec : (Json.object parts).WellFormed) {t : Template}
    (h : compileParts compiler (.object parts) parts = .ok t.assignments) (context : Json) :
    t.evaluate context = .object (denoteRequest compiler context parts) := by
  have hnames := (Json.wellFormed_object_iff.1 hspec).1
  have hseed : ∀ name ∈ parts.keys, name ≠ "method" → name ∉ (seed context).keys := by
    intro name _ hmethod
    rw [seed_eq_denoteSeed, ← Members.get?_eq_none_iff]
    exact get?_denoteSeed context hmethod
  rw [evaluate, runAll_compileParts hspec (List.Subset.refl _) hnames h context hseed,
    seed_eq_denoteSeed, denoteRequest]

/-- **The flat run of a template is the reading of its tree**, member by member and in order, for
every compiler of expressions, every spec that can be compiled and every context. The request starts
with the method of the incoming one and goes on with what the parts denote: a container denotes what
its leaves denote, without the members and behind the items that denote nothing.

**Proof sketch.** One write is a change in the slot of its first step, so the writes of all leaves
below a step run in its slot as if it were a request of its own (`fill_map_under_object`,
`fill_map_under_array`). Names are distinct and positions increase, so every such slot is empty when
its first write comes, and by induction on the tree it is left with what the tree denotes
(`fills_of_wellFormed`). The parts are added by induction on the spec (`runAll_compileParts`). -/
theorem evaluate_of_compileWith {compiler : Compiler} {spec : Json} (hspec : spec.WellFormed)
    {t : Template} (h : compileWith compiler spec = .ok t) (context : Json) :
    ∃ parts, spec = .object parts ∧
      t.evaluate context = .object (denoteRequest compiler context parts) := by
  obtain ⟨parts, rfl, hparts⟩ := compileWith_eq_ok_iff.1 h
  exact ⟨parts, rfl, evaluate_eq_denoteRequest hspec hparts context⟩

/-- A nested spec with leaves that have no value: they are missing among the members, null before a
later item, and cut off behind the last item. -/
theorem evaluate_of_compileWith_unresolved :
    ∃ t : Template,
      compileWith (fun source => .ok fun _ =>
          if source = "m.request.body.id" then some (.string "7") else none)
        (.object [("body", .object [("a", .string "{gone}"),
          ("list", .array [.string "{gone}", .object [("k", .string "{id}")], .string "{gone}"]),
          ("rest", .array [.object [("z", .string "{gone}")]])]),
          ("method", .string "PUT"), ("flag", .bool false)]) = .ok t ∧
      t.evaluate (.object [("request", .object [("method", .string "GET")])]) =
        .object [("method", .string "PUT"),
          ("body", .object [("list", .array [.null, .object [("k", .string "7")]])])] := by
  refine Exists.imp (fun t ht => ⟨ht, ?_⟩) ⟨_, rfl⟩
  obtain ⟨parts, hparts, heval⟩ := evaluate_of_compileWith (by simp [Members.keys, UInt64.size]) ht
    (.object [("request", .object [("method", .string "GET")])])
  obtain rfl := Json.object.inj hparts
  rw [heval]
  rfl

end Template

end Remap.Request
