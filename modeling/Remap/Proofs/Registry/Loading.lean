import Mathlib.Data.List.Nodup
import Remap.Registry.Basic

set_option relaxedAutoImplicit false
set_option autoImplicit false

/-!
# Loading a registry

Settings are loaded one by one. As long as nothing is wrong with them, the templates that are found
by name and the list of names keep in step with the settings loaded so far; the first settings with
something wrong decide the error, and no registry is left.

## Main definitions

* `Remap.Registry.Loadable` — settings that give a registry.
* `Remap.Registry.Fault` — what is wrong with settings behind others.
* `Remap.Registry.Holds` — the contents of a registry.

## Main results

* `Remap.Registry.Holds.add_cases`, `Remap.Registry.Holds.addAll_cases` — one step of loading, and
  all steps to come.
* `Remap.Registry.ofSettings_eq_error_iff` — what loading fails with.
* `Remap.Registry.ofSettings_outcome` — the outcome of loading a list of settings.
-/

namespace Remap.Registry

open Remap.Request (Template TemplateError)

/-- The names are different from each other, and every spec can be compiled. -/
def Loadable (settings : List Settings) : Prop :=
  (settings.map Settings.name).Nodup ∧
    ∀ s ∈ settings, ∃ template, Template.compile s.request = .ok template

/-- What is wrong with settings that come behind others: they repeat a name, or else their spec
cannot be compiled. -/
inductive Fault (earlier : List Settings) (s : Settings) : RegistryError → Prop
  | repeated (hname : s.name ∈ earlier.map Settings.name) :
      Fault earlier s (.duplicateName s.name)
  | rejected (hname : s.name ∉ earlier.map Settings.name) {reason : TemplateError}
      (h : Template.compile s.request = .error reason) :
      Fault earlier s (.notCompiled s.name reason)

/-- The registry holds just the given settings, each with its compiled spec under its name. -/
structure Holds (r : Registry) (settings : List Settings) : Prop where
  names : r.names = settings.map Settings.name
  nodup : (settings.map Settings.name).Nodup
  size : r.size = settings.length
  find?_of_mem : ∀ s ∈ settings, ∃ template, Template.compile s.request = .ok template ∧
    r.find? s.name = some ⟨s.name, s.description, template⟩
  find?_of_not_mem : ∀ name, name ∉ settings.map Settings.name → r.find? name = none

/-! ## Contents -/

/-- The empty registry holds no settings. -/
theorem holds_nil : Holds ⟨[], []⟩ [] where
  names := rfl
  nodup := List.nodup_nil
  size := rfl
  find?_of_mem := by simp
  find?_of_not_mem _ _ := rfl

/-- Settings that fail to load do not belong to settings that give a registry. -/
theorem Fault.not_loadable {front back : List Settings} {s : Settings} {e : RegistryError}
    (h : Fault front s e) : ¬Loadable (front ++ s :: back) := by
  rintro ⟨hnodup, hcompile⟩
  cases h with
  | repeated hname =>
    rw [List.map_append, List.map_cons, List.nodup_append] at hnodup
    exact hnodup.2.2 _ hname _ List.mem_cons_self rfl
  | rejected _ h =>
    obtain ⟨template, hok⟩ := hcompile s (by simp)
    rw [h] at hok
    simp at hok

/-- Only one thing is wrong with settings behind others. -/
theorem Fault.unique {earlier : List Settings} {s : Settings} {e e' : RegistryError}
    (h : Fault earlier s e) (h' : Fault earlier s e') : e = e' := by
  cases h with
  | repeated hname =>
    cases h' with
    | repeated _ => rfl
    | rejected hname' _ => exact absurd hname hname'
  | rejected hname h =>
    cases h' with
    | repeated hname' => exact absurd hname' hname
    | rejected _ h' => rw [Except.error.inj (h.symm.trans h')]

namespace Holds

variable {r : Registry} {settings : List Settings} (h : r.Holds settings)

include h

/-- Settings that a registry holds give a registry. -/
theorem loadable : Loadable settings :=
  ⟨h.nodup, fun s hs => (h.find?_of_mem s hs).imp fun _ hfound => hfound.1⟩

/-- A registry holds nothing under other names than those of its settings. -/
theorem find?_eq_none_iff {name : String} :
    r.find? name = none ↔ name ∉ settings.map Settings.name := by
  refine ⟨fun hnone hname => ?_, h.find?_of_not_mem name⟩
  obtain ⟨s, hs, rfl⟩ := List.mem_map.1 hname
  obtain ⟨template, -, hfound⟩ := h.find?_of_mem s hs
  rw [hnone] at hfound
  simp at hfound

/-- The registry with one more entry holds the settings of the entry, too.

**Proof sketch.** The name of the entry is none of the names before it, so it does not change what
is found under those (`find?_push_of_ne`), and it is itself found as the new entry
(`find?_push_self`). -/
theorem push {s : Settings} (hname : s.name ∉ settings.map Settings.name) {template : Template}
    (hcompile : Template.compile s.request = .ok template) :
    (r.push ⟨s.name, s.description, template⟩).Holds (settings ++ [s]) where
  names := by
    rw [List.map_append, ← h.names]
    rfl
  nodup := by
    rw [List.map_append]
    exact List.nodup_append.2 ⟨h.nodup, List.nodup_singleton _, by simpa using hname⟩
  size := by
    rw [List.length_append, ← h.size]
    rfl
  find?_of_mem := by
    intro s' hs'
    rcases List.mem_append.1 hs' with hs' | hs'
    · have hne : s'.name ≠ s.name := by
        intro heq
        exact hname (heq ▸ List.mem_map_of_mem hs')
      obtain ⟨template', hcompile', hfound⟩ := h.find?_of_mem s' hs'
      exact ⟨template', hcompile', (find?_push_of_ne r hne).trans hfound⟩
    · obtain rfl := List.mem_singleton.1 hs'
      exact ⟨template, hcompile, find?_push_self r ⟨_, _, template⟩⟩
  find?_of_not_mem := by
    intro name hmem
    rw [List.map_append, List.mem_append, not_or] at hmem
    have hne : name ≠ s.name := by simpa using hmem.2
    rw [find?_push_of_ne r hne, h.find?_of_not_mem name hmem.1]

/-- **One step of loading** fails with what is wrong with the settings, or the registry holds them,
too. -/
theorem add_cases (s : Settings) :
    (∃ e, r.add s = .error e ∧ Fault settings s e) ∨
      ∃ next, r.add s = .ok next ∧ next.Holds (settings ++ [s]) := by
  by_cases hname : s.name ∈ settings.map Settings.name
  · have hfound : (r.find? s.name).isSome = true := by
      rw [Option.isSome_iff_ne_none, Ne, h.find?_eq_none_iff, not_not]
      exact hname
    left
    exact ⟨_, by rw [Registry.add, if_pos hfound], .repeated hname⟩
  · have hnone : ¬(r.find? s.name).isSome = true := by
      rw [h.find?_of_not_mem _ hname]
      simp
    cases hcompile : Template.compile s.request with
    | error reason =>
      left
      exact ⟨_, by rw [Registry.add, if_neg hnone, hcompile], .rejected hname hcompile⟩
    | ok template =>
      right
      exact ⟨_, by rw [Registry.add, if_neg hnone, hcompile], h.push hname hcompile⟩

end Holds

/-! ## Lists of settings -/

/-- **Loading more settings** stops at the first that something is wrong with, or the registry holds
all of them, too.

**Proof sketch.** Induction on the settings to come, for every registry that holds those before. -/
theorem Holds.addAll_cases {r : Registry} {earlier : List Settings} (h : r.Holds earlier)
    (rest : List Settings) :
    (∃ front s back e, rest = front ++ s :: back ∧ Loadable (earlier ++ front) ∧
        Fault (earlier ++ front) s e ∧ r.addAll rest = .error e) ∨
      ∃ final, r.addAll rest = .ok final ∧ final.Holds (earlier ++ rest) := by
  induction rest generalizing r earlier with
  | nil =>
    right
    exact ⟨r, rfl, by rwa [List.append_nil]⟩
  | cons s rest ih =>
    rw [addAll]
    rcases h.add_cases s with ⟨e, hadd, hfault⟩ | ⟨next, hadd, hnext⟩
    · left
      refine ⟨[], s, rest, e, rfl, ?_, ?_, by rw [hadd]⟩
      · rw [List.append_nil]
        exact h.loadable
      · rwa [List.append_nil]
    · rw [hadd]
      rcases ih hnext with ⟨front, s', back, e, rfl, hfront, hfault, herror⟩ | ⟨final, hok, hfinal⟩
      · left
        refine ⟨s :: front, s', back, e, rfl, ?_, ?_, herror⟩
        · rwa [List.append_cons]
        · rwa [List.append_cons]
      · right
        rw [List.append_assoc] at hfinal
        exact ⟨final, hok, hfinal⟩

/-- Settings behind others that have been loaded go on from there. -/
theorem addAll_append {r next : Registry} {front : List Settings} (h : r.addAll front = .ok next)
    (back : List Settings) : r.addAll (front ++ back) = next.addAll back := by
  induction front generalizing r with
  | nil =>
    obtain rfl := Except.ok.inj h
    rfl
  | cons s front ih =>
    rw [addAll] at h
    rw [List.cons_append, addAll]
    cases hadd : r.add s with
    | error e => simp [hadd] at h
    | ok middle =>
      simp only [hadd] at h ⊢
      exact ih h

/-- What has been loaded is what the registry holds. -/
theorem holds_of_ofSettings {settings : List Settings} {r : Registry}
    (h : ofSettings settings = .ok r) : r.Holds settings := by
  rcases holds_nil.addAll_cases settings with
    ⟨front, s, back, e, -, -, -, herror⟩ | ⟨final, hok, hfinal⟩
  · rw [ofSettings, herror] at h
    simp at h
  · obtain rfl := Except.ok.inj (hok.symm.trans h)
    exact hfinal

/-- Settings are loaded where they are loadable. -/
theorem exists_ofSettings_iff {settings : List Settings} :
    (∃ r, ofSettings settings = .ok r) ↔ Loadable settings := by
  constructor
  · rintro ⟨r, hr⟩
    exact (holds_of_ofSettings hr).loadable
  · intro h
    rcases holds_nil.addAll_cases settings with
      ⟨front, s, back, e, rfl, -, hfault, -⟩ | ⟨final, hok, -⟩
    · exact absurd h hfault.not_loadable
    · exact ⟨final, hok⟩

/-- Loading fails with what is wrong with the first settings that something is wrong with. -/
theorem ofSettings_eq_error_iff {settings : List Settings} {e : RegistryError} :
    ofSettings settings = .error e ↔
      ∃ front s back, settings = front ++ s :: back ∧ Loadable front ∧ Fault front s e := by
  constructor
  · intro herror
    rcases holds_nil.addAll_cases settings with
      ⟨front, s, back, e', heq, hfront, hfault, herror'⟩ | ⟨final, hok, -⟩
    · obtain rfl := Except.error.inj (herror'.symm.trans herror)
      exact ⟨front, s, back, heq, hfront, hfault⟩
    · rw [ofSettings, hok] at herror
      simp at herror
  · rintro ⟨front, s, back, rfl, hfront, hfault⟩
    obtain ⟨r, hr⟩ := exists_ofSettings_iff.2 hfront
    rw [ofSettings, addAll_append hr, addAll]
    rcases (holds_of_ofSettings hr).add_cases s with ⟨e', hadd, hfault'⟩ | ⟨next, -, hnext⟩
    · rw [hadd, hfault'.unique hfault]
    · exact absurd hnext.loadable hfault.not_loadable

/-- **The outcome of loading settings**, for every list of them. There is a registry if and only if
the names are different from each other and every spec can be compiled. It lists the names in order,
each once, and has as many templates as there are settings. What it holds under the name of settings
is their description and their compiled spec, which is what the name is evaluated with; under any
other name there is nothing. Otherwise there is no registry, and the error is that of the first
settings that repeat an earlier name, be their spec as it may, or whose spec cannot be compiled.

**Proof sketch.** By induction on the settings the registry holds those loaded so far
(`Holds.addAll_cases`): each step adds one more, or fails with what is wrong with it behind those
before (`Holds.add_cases`). -/
theorem ofSettings_outcome (settings : List Settings) :
    ((∃ r, ofSettings settings = .ok r) ↔
      (settings.map Settings.name).Nodup ∧
        ∀ s ∈ settings, ∃ template, Template.compile s.request = .ok template) ∧
    (∀ r, ofSettings settings = .ok r →
      r.names = settings.map Settings.name ∧ r.names.Nodup ∧ r.size = settings.length ∧
        (∀ s ∈ settings, ∃ template, Template.compile s.request = .ok template ∧
          r.template? s.name = some template ∧ r.description? s.name = s.description ∧
            ∀ context, r.evaluate? s.name context = some (template.evaluate context)) ∧
        ∀ name, name ∉ settings.map Settings.name →
          r.template? name = none ∧ r.description? name = none ∧
            ∀ context, r.evaluate? name context = none) ∧
    ∀ e, ofSettings settings = .error e ↔
      ∃ front s back, settings = front ++ s :: back ∧
        ((front.map Settings.name).Nodup ∧
          ∀ s ∈ front, ∃ template, Template.compile s.request = .ok template) ∧
        Fault front s e := by
  refine ⟨exists_ofSettings_iff, fun r hr => ?_, fun e => ofSettings_eq_error_iff⟩
  have h := holds_of_ofSettings hr
  refine ⟨h.names, h.names ▸ h.nodup, h.size, fun s hs => ?_, fun name hname => ?_⟩
  · obtain ⟨template, hcompile, hfound⟩ := h.find?_of_mem s hs
    exact ⟨template, hcompile, by simp [template?, hfound], by simp [description?, hfound],
      by simp [evaluate?, template?, hfound]⟩
  · have hnone := h.find?_of_not_mem name hname
    exact ⟨by simp [template?, hnone], by simp [description?, hnone],
      by simp [evaluate?, template?, hnone]⟩

/-- A repeated name is found before its spec, which cannot be compiled, and before later faults. The
settings before it give a registry. -/
theorem ofSettings_outcome_repeated_name :
    let front : List Settings :=
      [⟨"a", none, .object [("method", .null)]⟩, ⟨"b", some "", .object []⟩]
    (∃ r, ofSettings front = .ok r ∧ r.names = ["a", "b"] ∧ r.description? "b" = some "" ∧
      r.evaluate? "c" .null = none) ∧
    ofSettings (front ++ [⟨"a", some "", .array []⟩, ⟨"c", none, .null⟩]) =
      .error (.duplicateName "a") := by
  intro front
  have hfront : (front.map Settings.name).Nodup ∧
      ∀ s ∈ front, ∃ template, Template.compile s.request = .ok template := by
    refine ⟨by decide, ?_⟩
    simp only [front, List.forall_mem_cons, List.not_mem_nil, false_imp_iff, implies_true, and_true]
    exact ⟨⟨_, rfl⟩, ⟨_, rfl⟩⟩
  constructor
  · obtain ⟨hexists, hholds, -⟩ := ofSettings_outcome front
    obtain ⟨r, hr⟩ := hexists.2 hfront
    obtain ⟨hnames, -, -, hmem, hother⟩ := hholds r hr
    obtain ⟨template, -, -, hdescription, -⟩ :=
      hmem ⟨"b", some "", .object []⟩ (List.mem_cons_of_mem _ List.mem_cons_self)
    exact ⟨r, hr, hnames, hdescription, (hother "c" (by decide)).2.2 .null⟩
  · refine ((ofSettings_outcome _).2.2 _).2 ⟨front, _, _, rfl, hfront, .repeated ?_⟩
    decide

end Remap.Registry
