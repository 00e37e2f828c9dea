import Mathlib.Data.Set.Card
import Remap.Request.Cache

set_option relaxedAutoImplicit false
set_option autoImplicit false

/-!
# The cache of templates is transparent

A new cache is used by a sequence of calls, each of which requests the template of a spec or drops
all templates. Whoever requests templates cannot tell the cache from the compiler but by the
identity of what it hands out: templates are shared between the requests for one text, from the
first request that succeeds to the next clearing.

Two invariants carry this over a run. A cache is consistent where every text is held once, every
identity is given to one text, and all of them have been given out already. The other invariant says
which texts are held and of which specs the templates are. That a spec is what its text says is a
hypothesis, made only for the specs that are requested in the run.

## Main definitions

* `Remap.Request.Cache.Call` — a call; `Remap.Request.Cache.run` — the effect of several.
* `Remap.Request.Cache.Consistent` — the invariant of a cache by itself.
* `Remap.Request.Cache.requestedTexts` — the texts requested successfully since the last clearing.

## Main results

* `Remap.Request.Cache.get_cases` — the three ways in which a request ends.
* `Remap.Request.Cache.Consistent.run` — consistency is kept.
* `Remap.Request.Cache.mem_texts_run_iff` — which texts are held.
* `Remap.Request.Cache.identity_eq_iff` — when two requests are given the same template.
* `Remap.Request.Cache.get_transparent` — the cache is transparent.
-/

namespace Remap.Request.Cache

/-! ## Calls -/

/-- A call to a cache. -/
inductive Call where
  | get (spec : Json)
  | clear

/-- The cache after a call. -/
def perform (c : Cache) : Call → Cache
  | .get spec => (c.get spec).2
  | .clear => c.clear

/-- The cache after several calls. -/
def run (c : Cache) (calls : List Call) : Cache :=
  calls.foldl perform c

/-- What a spec is answered with after calls to a new cache. -/
def answer (calls : List Call) (spec : Json) : Except TemplateError Shared :=
  ((empty.run calls).get spec).1

/-- The texts of the specs that were requested successfully, with no clearing afterwards. -/
def requestedTexts (calls : List Call) : Set String :=
  {text | ∃ front spec back, calls = front ++ .get spec :: back ∧ .clear ∉ back ∧
    (∃ shared, answer front spec = .ok shared) ∧ spec.compact = text}

@[simp]
theorem run_nil (c : Cache) : c.run [] = c := rfl

@[simp]
theorem run_cons (c : Cache) (call : Call) (calls : List Call) :
    c.run (call :: calls) = (c.perform call).run calls := rfl

@[simp]
theorem run_append (c : Cache) (calls calls' : List Call) :
    c.run (calls ++ calls') = (c.run calls).run calls' :=
  List.foldl_append

/-! ## One request -/

/-- **A request ends in one of three ways**: the cache holds a template for the text; the spec does
not compile; or it is compiled and its template is held from then on, under an identity of its
own. -/
theorem get_cases (c : Cache) (spec : Json) :
    (∃ shared, c.find? spec.compact = some shared ∧ c.get spec = (.ok shared, c)) ∨
      (∃ error, Template.compile spec = .error error ∧ c.get spec = (.error error, c)) ∨
      ∃ template, c.find? spec.compact = none ∧ Template.compile spec = .ok template ∧
        c.get spec = (.ok ⟨c.next, template⟩,
          ⟨c.entries ++ [(spec.compact, ⟨c.next, template⟩)], c.next + 1⟩) := by
  cases hfind : c.find? spec.compact with
  | some shared => exact .inl ⟨shared, rfl, by simp only [get, hfind]⟩
  | none =>
    cases hcompile : Template.compile spec with
    | error error => exact .inr (.inl ⟨error, rfl, by simp only [get, hfind, hcompile]⟩)
    | ok template =>
      exact .inr (.inr ⟨template, rfl, rfl, by simp only [get, store, hfind, hcompile]⟩)

/-- A request leaves the cache as it is, or else it adds the template of its spec. -/
theorem perform_get_cases (c : Cache) (spec : Json) :
    c.perform (.get spec) = c ∨
      ∃ template, c.find? spec.compact = none ∧ Template.compile spec = .ok template ∧
        c.perform (.get spec) =
          ⟨c.entries ++ [(spec.compact, ⟨c.next, template⟩)], c.next + 1⟩ := by
  rw [perform]
  rcases c.get_cases spec with
    ⟨held, -, hget⟩ | ⟨error, -, hget⟩ | ⟨template, hfind, hcompile, hget⟩
  · exact .inl (by rw [hget])
  · exact .inl (by rw [hget])
  · exact .inr ⟨template, hfind, hcompile, by rw [hget]⟩

/-- What is held for a text is an entry. -/
theorem mem_entries_of_find? {c : Cache} {text : String} {shared : Shared}
    (h : c.find? text = some shared) : (text, shared) ∈ c.entries := by
  obtain ⟨front, back, hentries, -⟩ := List.lookup_eq_some_iff.1 h
  rw [hentries]
  exact List.mem_append_cons_self

/-- Nothing is held for a text that no entry has. -/
theorem find?_eq_none_iff {c : Cache} {text : String} :
    c.find? text = none ↔ text ∉ c.entries.map Prod.fst := by
  rw [find?, List.lookup_eq_none_iff]
  simp only [bne_iff_ne, List.mem_map, not_exists, not_and, ne_eq]
  exact ⟨fun h entry hentry heq => h entry hentry heq.symm,
    fun h entry hentry heq => h entry hentry heq.symm⟩

/-- A template that is handed out is held. -/
theorem find?_get {c : Cache} {spec : Json} {shared : Shared}
    (h : (c.get spec).1 = .ok shared) : (c.get spec).2.find? spec.compact = some shared := by
  rcases c.get_cases spec with ⟨held, hfind, hget⟩ | ⟨error, -, hget⟩ | ⟨template, hfind, -, hget⟩
  · rw [hget] at h ⊢
    obtain rfl := Except.ok.inj h
    exact hfind
  · simp [hget] at h
  · rw [hget] at h ⊢
    obtain rfl := Except.ok.inj h
    rw [find?] at hfind
    simp [find?, List.lookup_append, hfind]

/-- What is held stays held until a clearing. -/
theorem find?_perform {c : Cache} {text : String} {shared : Shared}
    (h : c.find? text = some shared) {call : Call} (hcall : call ≠ .clear) :
    (c.perform call).find? text = some shared := by
  cases call with
  | clear => exact absurd rfl hcall
  | get spec =>
    rcases c.perform_get_cases spec with hsame | ⟨template, -, -, hadd⟩
    · rwa [hsame]
    · rw [find?] at h
      simp [hadd, find?, List.lookup_append, h]

/-- What is held stays held over all calls before a clearing. -/
theorem find?_run {c : Cache} {text : String} {shared : Shared} (h : c.find? text = some shared)
    {calls : List Call} (hcalls : .clear ∉ calls) : (c.run calls).find? text = some shared := by
  induction calls generalizing c with
  | nil => exact h
  | cons call calls ih =>
    have hcall : call ≠ .clear := fun heq => hcalls (heq ▸ List.mem_cons_self)
    exact ih (find?_perform h hcall) fun hmem => hcalls (List.mem_cons_of_mem call hmem)

/-! ## Consistency -/

/-- Every text is held once, every identity is given to one text, and the identity of the next
compilation is above all of them. -/
structure Consistent (c : Cache) : Prop where
  nodup_texts : (c.entries.map Prod.fst).Nodup
  nodup_identities : (c.entries.map fun entry => entry.2.identity).Nodup
  identity_lt : ∀ entry ∈ c.entries, entry.2.identity < c.next

/-- A cache without entries is consistent. -/
theorem consistent_of_entries_eq_nil {c : Cache} (h : c.entries = []) : c.Consistent := by
  constructor <;> simp [h]

/-- A call keeps the cache consistent.

**Proof sketch.** Only a request whose text is not held and that compiles adds an entry
(`perform_get_cases`). Its text is new because nothing was found under it, and its identity is
`next`, which is above every identity given before. -/
theorem Consistent.perform {c : Cache} (h : c.Consistent) (call : Call) :
    (c.perform call).Consistent := by
  cases call with
  | clear => exact consistent_of_entries_eq_nil rfl
  | get spec =>
    rcases c.perform_get_cases spec with hsame | ⟨template, hfind, -, hadd⟩
    · rwa [hsame]
    · rw [hadd]
      constructor
      · rw [List.map_append, List.nodup_append]
        refine ⟨h.nodup_texts, by simp, ?_⟩
        rintro text htext _ hnew rfl
        obtain rfl := List.mem_singleton.1 hnew
        exact find?_eq_none_iff.1 hfind htext
      · rw [List.map_append, List.nodup_append]
        refine ⟨h.nodup_identities, by simp, ?_⟩
        rintro identity hidentity _ hnew rfl
        obtain rfl := List.mem_singleton.1 hnew
        obtain ⟨entry, hentry, heq⟩ := List.mem_map.1 hidentity
        exact absurd (h.identity_lt entry hentry) (by simp [heq])
      · intro entry hentry
        rcases List.mem_append.1 hentry with hentry | hentry
        · exact (h.identity_lt entry hentry).trans (Nat.lt_succ_self _)
        · obtain rfl := List.mem_singleton.1 hentry
          exact Nat.lt_succ_self _

/-- **Calls keep the cache consistent.** -/
theorem Consistent.run {c : Cache} (h : c.Consistent) (calls : List Call) :
    (c.run calls).Consistent := by
  induction calls generalizing c with
  | nil => exact h
  | cons call calls ih => exact ih (h.perform call)

/-- One identity is given to one text. -/
theorem Consistent.text_eq {c : Cache} (h : c.Consistent) {text text' : String}
    {shared shared' : Shared} (hfind : c.find? text = some shared)
    (hfind' : c.find? text' = some shared') (hidentity : shared.identity = shared'.identity) :
    text = text' := by
  have hentry := List.inj_on_of_nodup_map h.nodup_identities (mem_entries_of_find? hfind)
    (mem_entries_of_find? hfind') hidentity
  exact congrArg Prod.fst hentry

/-! ## Identities -/

/-- `c.Above n` says that no template of the cache has an identity below `n`, nor will the next
one have. -/
def Above (n : Nat) (c : Cache) : Prop :=
  n ≤ c.next ∧ ∀ entry ∈ c.entries, n ≤ entry.2.identity

/-- No call makes use of a smaller identity. -/
theorem Above.perform {n : Nat} {c : Cache} (h : c.Above n) (call : Call) :
    (c.perform call).Above n := by
  obtain ⟨hnext, hentries⟩ := h
  cases call with
  | clear => exact ⟨hnext, by simp [Cache.perform, clear]⟩
  | get spec =>
    rcases c.perform_get_cases spec with hsame | ⟨template, -, -, hadd⟩
    · rw [hsame]
      exact ⟨hnext, hentries⟩
    · rw [hadd]
      refine ⟨Nat.le_succ_of_le hnext, ?_⟩
      intro entry hentry
      rcases List.mem_append.1 hentry with hentry | hentry
      · exact hentries entry hentry
      · obtain rfl := List.mem_singleton.1 hentry
        exact hnext

/-- No calls make use of a smaller identity. -/
theorem Above.run {n : Nat} {c : Cache} (h : c.Above n) (calls : List Call) :
    (c.run calls).Above n := by
  induction calls generalizing c with
  | nil => exact h
  | cons call calls ih => exact ih (h.perform call)

/-- After a clearing no identity is used that was used before. -/
theorem above_clear (c : Cache) : c.clear.Above c.next :=
  ⟨Nat.le_refl _, by simp [clear]⟩

/-- The identity of the next compilation never falls. -/
theorem next_le_run (c : Cache) (calls : List Call) : c.next ≤ (c.run calls).next := by
  induction calls generalizing c with
  | nil => exact Nat.le_refl _
  | cons call calls ih =>
    refine Nat.le_trans ?_ (ih (c.perform call))
    cases call with
    | clear => exact Nat.le_refl _
    | get spec =>
      rcases c.perform_get_cases spec with hsame | ⟨template, -, -, hadd⟩
      · rw [hsame]
      · rw [hadd]
        exact Nat.le_succ _

/-- **Two requests are given the same template** where their specs have the same text and no
clearing lies between them.

**Proof sketch.** Without a clearing, what the first request was given is still held: for the same
text the second one is given it, too, and another text has another identity. After a clearing only
identities are used that are above all earlier ones. -/
theorem identity_eq_iff {c : Cache} (hc : c.Consistent) {spec spec' : Json} {between : List Call}
    {shared shared' : Shared} (h : (c.get spec).1 = .ok shared)
    (h' : ((c.run (.get spec :: between)).get spec').1 = .ok shared') :
    shared.identity = shared'.identity ↔ spec.compact = spec'.compact ∧ .clear ∉ between := by
  rw [run_cons] at h'
  have hconsistent := hc.perform (.get spec)
  have hfirst : (c.perform (.get spec)).find? spec.compact = some shared := find?_get h
  generalize c.perform (.get spec) = c₁ at h' hconsistent hfirst
  have hsecond : ((c₁.run between).perform (.get spec')).find? spec'.compact = some shared' :=
    find?_get h'
  constructor
  · intro hidentity
    have hclear : .clear ∉ between := by
      intro hmem
      -- `shared` is older than the clearing, and `shared'` is not.
      obtain ⟨before, behind, rfl⟩ := List.append_of_mem hmem
      rw [run_append, run_cons] at hsecond
      have hlt := hconsistent.identity_lt _ (mem_entries_of_find? hfirst)
      have hmono := next_le_run c₁ before
      have habove := (((above_clear (c₁.run before)).run behind).perform (.get spec')).2 _
        (mem_entries_of_find? hsecond)
      simp only at hlt habove
      omega
    have hkept : ((c₁.run between).perform (.get spec')).find? spec.compact = some shared :=
      find?_perform (find?_run hfirst hclear) (by simp)
    exact ⟨((hconsistent.run between).perform _).text_eq hkept hsecond hidentity, hclear⟩
  · rintro ⟨htext, hclear⟩
    have hheld : (c₁.run between).find? spec'.compact = some shared :=
      htext ▸ find?_run hfirst hclear
    have hget : ((c₁.run between).get spec').1 = .ok shared := by
      simp only [get, hheld]
    rw [Except.ok.inj (hget.symm.trans h')]

/-! ## What is held -/

/-- A place in a sequence of calls with one more call at the end is that end or a place before. -/
theorem append_singleton_eq_append_cons_iff {calls front back : List Call} {last call : Call} :
    calls ++ [last] = front ++ call :: back ↔
      (calls = front ∧ last = call ∧ back = []) ∨
        ∃ back', back = back' ++ [last] ∧ calls = front ++ call :: back' := by
  constructor
  · intro h
    rcases List.eq_nil_or_concat back with rfl | ⟨back', last', rfl⟩
    · obtain ⟨hfront, hlast⟩ := List.append_inj' h rfl
      exact .inl ⟨hfront, List.singleton_inj.1 hlast, rfl⟩
    · rw [List.concat_eq_append, ← List.cons_append, ← List.append_assoc] at h
      obtain ⟨hfront, hlast⟩ := List.append_inj' h rfl
      exact .inr ⟨back', by rw [List.concat_eq_append, hlast], hfront⟩
  · rintro (⟨rfl, rfl, rfl⟩ | ⟨back', rfl, rfl⟩)
    · rfl
    · rw [← List.cons_append, ← List.append_assoc]

/-- Nothing has been requested before the first call. -/
theorem requestedTexts_nil : requestedTexts [] = ∅ := by
  ext text
  simp [requestedTexts]

/-- After a clearing nothing counts as requested. -/
theorem requestedTexts_append_clear (calls : List Call) :
    requestedTexts (calls ++ [.clear]) = ∅ := by
  refine Set.eq_empty_of_forall_notMem ?_
  rintro text ⟨front, spec, back, hcalls, hclear, -⟩
  rcases append_singleton_eq_append_cons_iff.1 hcalls with ⟨-, hcall, -⟩ | ⟨back', rfl, -⟩
  · simp at hcall
  · simp at hclear

/-- A request adds its text, if it succeeds. -/
theorem mem_requestedTexts_append_get_iff {calls : List Call} {spec : Json} {text : String} :
    text ∈ requestedTexts (calls ++ [.get spec]) ↔
      text ∈ requestedTexts calls ∨
        (∃ shared, answer calls spec = .ok shared) ∧ spec.compact = text := by
  constructor
  · rintro ⟨front, other, back, hcalls, hclear, hanswer, htext⟩
    rcases append_singleton_eq_append_cons_iff.1 hcalls with ⟨rfl, hcall, -⟩ | ⟨back', rfl, hfront⟩
    · obtain rfl := Call.get.inj hcall
      exact .inr ⟨hanswer, htext⟩
    · exact .inl ⟨front, other, back', hfront, by simpa using hclear, hanswer, htext⟩
  · rintro (⟨front, other, back, rfl, hclear, hanswer, htext⟩ | ⟨hanswer, htext⟩)
    · exact ⟨front, other, back ++ [.get spec], by simp, by simpa using hclear, hanswer, htext⟩
    · exact ⟨calls, spec, [], rfl, by simp, hanswer, htext⟩

/-- **The texts that are held** are those that were requested successfully since the last
clearing. -/
theorem mem_texts_run_iff {calls : List Call} {text : String} :
    text ∈ (empty.run calls).entries.map Prod.fst ↔ text ∈ requestedTexts calls := by
  induction calls using List.reverseRecOn with
  | nil => simp [empty, requestedTexts_nil]
  | append_singleton calls call ih =>
    rw [run_append, run_cons, run_nil]
    cases call with
    | clear => simp [perform, clear, requestedTexts_append_clear]
    | get spec =>
      rw [mem_requestedTexts_append_get_iff, ← ih, perform, answer]
      rcases (empty.run calls).get_cases spec with
        ⟨held, hfind, hget⟩ | ⟨error, -, hget⟩ | ⟨template, -, -, hget⟩
      · -- The text of the request is among those that are held already.
        have hmem := List.mem_map_of_mem (f := Prod.fst) (mem_entries_of_find? hfind)
        rw [hget, iff_self_or]
        rintro ⟨-, rfl⟩
        exact hmem
      · simp [hget]
      · simp [hget, eq_comm]

/-- The number of templates held is the number of these texts. -/
theorem size_run (calls : List Call) :
    (empty.run calls).size = (requestedTexts calls).ncard := by
  have htexts : requestedTexts calls =
      (((empty.run calls).entries.map Prod.fst).toFinset : Set String) := by
    ext text
    rw [List.coe_toFinset]
    exact mem_texts_run_iff.symm
  have hconsistent : (empty.run calls).Consistent := (consistent_of_entries_eq_nil rfl).run calls
  rw [htexts, Set.ncard_coe_finset, List.toFinset_card_of_nodup hconsistent.nodup_texts,
    List.length_map, size]

/-- Every template that is held is the compilation of a requested spec with the text under which it
is held.

**Proof sketch.** By induction on the calls from the last one backwards. What the cache held before
the last call comes from an earlier request; the one entry a last request can add is the compilation
of its own spec. -/
theorem exists_compile_of_mem_run {calls : List Call} {text : String} {shared : Shared}
    (h : (text, shared) ∈ (empty.run calls).entries) :
    ∃ spec, .get spec ∈ calls ∧ spec.compact = text ∧
      Template.compile spec = .ok shared.template := by
  induction calls using List.reverseRecOn with
  | nil => simp [empty] at h
  | append_singleton calls call ih =>
    have hearlier : (text, shared) ∈ (empty.run calls).entries →
        ∃ spec, .get spec ∈ calls ++ [call] ∧ spec.compact = text ∧
          Template.compile spec = .ok shared.template := by
      intro hmem
      obtain ⟨spec, hspec, hrest⟩ := ih hmem
      exact ⟨spec, List.mem_append_left _ hspec, hrest⟩
    rw [run_append, run_cons, run_nil] at h
    cases call with
    | clear => simp [perform, clear] at h
    | get spec =>
      rcases (empty.run calls).perform_get_cases spec with hsame | ⟨template, -, hcompile, hadd⟩
      · rw [hsame] at h
        exact hearlier h
      · rw [hadd] at h
        rcases List.mem_append.1 h with h | h
        · exact hearlier h
        · obtain ⟨rfl, rfl⟩ := Prod.mk.inj (List.mem_singleton.1 h)
          exact ⟨spec, by simp, rfl, hcompile⟩

/-! ## Transparency -/

/-- A request is answered as the compiler answers it, where no other requested spec has its text. -/
theorem answer_map_template {calls : List Call} {spec : Json}
    (hcompact : ∀ other, .get other ∈ calls → other.compact = spec.compact → other = spec) :
    (answer calls spec).map Shared.template = Template.compile spec := by
  rw [answer]
  rcases (empty.run calls).get_cases spec with
    ⟨shared, hfind, hget⟩ | ⟨error, hcompile, hget⟩ | ⟨template, -, hcompile, hget⟩
  · obtain ⟨other, hother, htext, hcompile⟩ :=
      exists_compile_of_mem_run (mem_entries_of_find? hfind)
    rw [hget, ← hcompact other hother htext, hcompile]
    rfl
  · rw [hget, hcompile]
    rfl
  · rw [hget, hcompile]
    rfl

/-- A request that fails leaves the cache as it is. -/
theorem get_eq_self_of_error {c : Cache} {spec : Json} {error : TemplateError}
    (h : (c.get spec).1 = .error error) : (c.get spec).2 = c := by
  rcases c.get_cases spec with ⟨held, -, hget⟩ | ⟨error, -, hget⟩ | ⟨template, -, -, hget⟩
  · simp [hget] at h
  · rw [hget]
  · simp [hget] at h

/-- **The cache is transparent**, for every sequence of calls to a new cache in which specs with the
same text are equal. Every request is answered as the compiler answers it; two requests that succeed
are given the same template exactly where their specs have the same text and no clearing lies
between them; at every time the size is the number of texts requested successfully since the last
clearing; and a request that fails leaves the cache as it is.

**Proof sketch.** By induction on the calls, the texts that are held are those requested since the
last clearing, each once (`size_run`), and what is held is a compilation of a requested spec with
that text (`exists_compile_of_mem_run`), which by the hypothesis is the very spec that is asked for.
Identities are compared in `identity_eq_iff`. -/
theorem get_transparent (calls : List Call)
    (hcompact : Set.InjOn Json.compact {spec | .get spec ∈ calls}) :
    (∀ front spec, front ++ [.get spec] <+: calls →
      (answer front spec).map Shared.template = Template.compile spec) ∧
    (∀ front spec between spec' shared shared',
      front ++ .get spec :: between ++ [.get spec'] <+: calls →
      answer front spec = .ok shared → answer (front ++ .get spec :: between) spec' = .ok shared' →
      (shared.identity = shared'.identity ↔ spec.compact = spec'.compact ∧ .clear ∉ between)) ∧
    (∀ front, front <+: calls →
      (empty.run front).size = (requestedTexts front).ncard ∧
        ((empty.run front).isEmpty = true ↔ (requestedTexts front).ncard = 0)) ∧
    ∀ front spec error, front ++ [.get spec] <+: calls → answer front spec = .error error →
      ((empty.run front).get spec).2 = empty.run front := by
  refine ⟨?_, ?_, ?_, ?_⟩
  · rintro front spec ⟨back, rfl⟩
    refine answer_map_template fun other hother htext => hcompact ?_ ?_ htext
    · simp [hother]
    · simp
  · intro front spec between spec' shared shared' _ h h'
    rw [answer] at h
    rw [answer, run_append] at h'
    exact identity_eq_iff ((consistent_of_entries_eq_nil rfl).run front) h h'
  · intro front _
    rw [← size_run]
    exact ⟨rfl, by simp [isEmpty]⟩
  · intro front spec error _ h
    exact get_eq_self_of_error h

/-- Three requests for one spec, one that fails after the first and a clearing before the last: the
first two are given one template, the last one is given another, which is again the compilation of
the spec.

**Proof sketch.** The two specs that are requested have different texts, which is computed. The
answers compute as well, and `get_transparent` says what they are: the identities agree where no
clearing is between the two requests. -/
theorem get_transparent_across_clear :
    let spec := Json.object [("method", .string "get")]
    let calls := [.get spec, .get .null, .get spec, .clear, .get spec]
    Set.InjOn Json.compact {other | .get other ∈ calls} ∧
      (∃ first second third,
        answer [] spec = .ok first ∧ answer [.get spec, .get .null] spec = .ok second ∧
          answer [.get spec, .get .null, .get spec, .clear] spec = .ok third ∧
          first.identity = second.identity ∧ second.identity ≠ third.identity ∧
          Template.compile spec = .ok third.template) ∧
      (∃ error, answer [.get spec] .null = .error error ∧
        ((empty.run [.get spec]).get .null).2 = empty.run [.get spec]) ∧
      (empty.run calls).size = (requestedTexts calls).ncard := by
  intro spec calls
  have hcompact : Set.InjOn Json.compact {other | .get other ∈ calls} := by
    have hne : spec.compact ≠ Json.null.compact := by decide
    intro other hother other' hother' h
    have hcases : ∀ s, .get s ∈ calls → s = spec ∨ s = .null := by
      intro s hs
      simp only [calls, List.mem_cons, Call.get.injEq, reduceCtorEq, List.not_mem_nil] at hs
      tauto
    rcases hcases other hother with rfl | rfl <;> rcases hcases other' hother' with rfl | rfl
    · rfl
    · exact absurd h hne
    · exact absurd h.symm hne
    · rfl
  obtain ⟨hanswer, hsame, hsize, herror⟩ := get_transparent calls hcompact
  have hthird := hanswer [.get spec, .get .null, .get spec, .clear] spec ⟨[], rfl⟩
  refine ⟨hcompact, ⟨_, _, _, rfl, rfl, rfl, ?_, ?_, hthird.symm⟩, ⟨_, rfl, ?_⟩,
    (hsize calls ⟨[], rfl⟩).1⟩
  · exact (hsame [] spec [.get .null] spec _ _ ⟨[.clear, .get spec], rfl⟩ rfl rfl).2 ⟨rfl, by simp⟩
  · intro hidentity
    have hsecond := hsame [.get spec, .get .null] spec [.clear] spec _ _ ⟨[], rfl⟩ rfl rfl
    exact absurd (hsecond.1 hidentity).2 (by simp)
  · exact herror [.get spec] .null _ ⟨[.get spec, .clear, .get spec], rfl⟩ rfl

end Remap.Request.Cache
