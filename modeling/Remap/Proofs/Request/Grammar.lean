import Mathlib.Data.List.Basic
import Remap.Request.Placeholder

set_option relaxedAutoImplicit false
set_option autoImplicit false

/-!
# The grammar of placeholders

A token is a text between one pair of braces, and the text of a placeholder is a dotted path: an
optional mark `$.`, then one or more segments with dots between them. The readers of tokens and of
paths accept exactly this.

## Main definitions

* `Remap.Request.Braced` — a text between braces.
* `Remap.Request.Placeholder.Spells` — the path of a placeholder, spelled out.

## Main results

* `Remap.Request.braced?_eq_some_iff` — the reader of braces.
* `Remap.Request.Placeholder.ofPath?_eq_some_iff` — the reader of paths.
* `Remap.Request.Placeholder.parse_eq_ok_iff` — the reader of tokens.
-/

namespace Remap.Request

/-- `Braced s inner` says that `s` consists of braces around `inner`, which is not empty and holds
no closing brace. -/
def Braced (s inner : List Char) : Prop :=
  s = '{' :: (inner ++ ['}']) ∧ inner ≠ [] ∧ '}' ∉ inner

/-- The reader of braces finds what is between them.

**Proof sketch.** By the first character and by the last one. What is left is the text between the
two, which is checked as the definition says. -/
theorem braced?_eq_some_iff {s inner : List Char} : braced? s = some inner ↔ Braced s inner := by
  obtain _ | ⟨first, rest⟩ := s
  · simp [braced?, Braced]
  by_cases hopening : first = '{'
  · subst hopening
    rw [braced?, Braced]
    by_cases hlast : rest.getLast? = some '}'
    · obtain ⟨body, rfl⟩ := List.getLast?_eq_some_iff.1 hlast
      rw [if_pos hlast, List.dropLast_concat]
      simp only [List.cons.injEq, true_and, List.append_cancel_right_eq]
      by_cases hbody : body = [] ∨ '}' ∈ body
      · rw [if_pos hbody]
        constructor
        · simp
        · rintro ⟨rfl, hne, hmem⟩
          exact absurd hbody (by simp [hne, hmem])
      · rw [if_neg hbody, Option.some.injEq]
        rw [not_or] at hbody
        constructor
        · rintro rfl
          exact ⟨rfl, hbody⟩
        · exact fun h => h.1
    · rw [if_neg hlast]
      constructor
      · simp
      · rintro ⟨h, -⟩
        obtain rfl := (List.cons.inj h).2
        exact absurd (List.getLast?_concat ..) hlast
  · simp [braced?, Braced, hopening]

/-- Only one text is between the braces. -/
theorem Braced.unique {s inner inner' : List Char} (h : Braced s inner) (h' : Braced s inner') :
    inner = inner' :=
  Option.some.inj ((braced?_eq_some_iff.2 h).symm.trans (braced?_eq_some_iff.2 h'))

/-- A string is taken for a placeholder where it is a text between braces. -/
theorem isPlaceholder_iff {s : String} :
    isPlaceholder s = true ↔ ∃ inner, Braced s.toList inner := by
  rw [isPlaceholder, Option.isSome_iff_exists]
  exact exists_congr fun inner => braced?_eq_some_iff

/-- A string is taken for a single placeholder where the text between braces holds no brace. -/
theorem isSinglePlaceholder_iff {s : String} :
    isSinglePlaceholder s = true ↔ ∃ inner, Braced s.toList inner ∧ '{' ∉ inner := by
  rw [isSinglePlaceholder]
  cases hread : braced? s.toList with
  | some inner =>
    have hbraced := braced?_eq_some_iff.1 hread
    simp only [Bool.not_eq_true', List.contains_eq_mem, decide_eq_false_iff_not]
    constructor
    · exact fun hopen => ⟨inner, hbraced, hopen⟩
    · rintro ⟨inner', hbraced', hopen⟩
      rwa [hbraced.unique hbraced']
  | none =>
    constructor
    · simp
    · rintro ⟨inner, hbraced, -⟩
      rw [braced?_eq_some_iff.2 hbraced] at hread
      simp at hread

namespace Placeholder

/-- `p.Spells path` says that `path` is the path of `p`: there is a segment, and every segment is a
letter and then letters, digits, hyphens and underscores. -/
structure Spells (p : Placeholder) (path : List Char) : Prop where
  eq_path : path = p.path.toList
  segments_ne_nil : p.segments ≠ []
  isSegment : ∀ segment ∈ p.segments, isSegment segment.toList = true

/-- A segment starts with a letter. -/
theorem exists_cons_of_isSegment {s : List Char} (h : isSegment s = true) :
    ∃ first rest, s = first :: rest ∧ first.isAlpha = true := by
  obtain _ | ⟨first, rest⟩ := s
  · simp [Request.isSegment] at h
  · rw [Request.isSegment, Bool.and_eq_true] at h
    exact ⟨first, rest, rfl, h.1⟩

/-- A segment holds no dot. -/
theorem not_mem_of_isSegment {s : List Char} (h : isSegment s = true) : '.' ∉ s := by
  obtain _ | ⟨first, rest⟩ := s
  · simp
  · rw [Request.isSegment, Bool.and_eq_true, List.all_eq_true] at h
    rw [List.mem_cons, not_or]
    constructor
    · rintro rfl
      exact absurd h.1 (by decide)
    · intro hmem
      exact absurd (h.2 _ hmem) (by decide)

/-- The segments of a spelled-out path are what stands between its dots. -/
theorem Spells.undotted_dotted {p : Placeholder} {path : List Char} (h : p.Spells path) :
    Text.undotted (Text.dotted p.segments) = p.segments :=
  Text.undotted_dotted h.segments_ne_nil fun segment hsegment =>
    not_mem_of_isSegment (h.isSegment segment hsegment)

/-- The dotted segments of a spelled-out path start with a letter. -/
theorem Spells.dotted_cons {p : Placeholder} {path : List Char} (h : p.Spells path) :
    ∃ first rest, (Text.dotted p.segments).toList = first :: rest ∧ first.isAlpha = true := by
  obtain ⟨segment, segments, hsegments⟩ := List.exists_cons_of_ne_nil h.segments_ne_nil
  obtain ⟨first, rest, hfirst, halpha⟩ :=
    exists_cons_of_isSegment (h.isSegment segment (by simp [hsegments]))
  rw [hsegments]
  by_cases hlast : segments = []
  · rw [hlast, Text.toList_dotted_singleton, hfirst]
    exact ⟨first, rest, rfl, halpha⟩
  · rw [Text.toList_dotted_cons _ hlast, hfirst]
    exact ⟨first, _, rfl, halpha⟩

/-- The characters of the path are the mark, if there is one, and the dotted segments. -/
theorem toList_path (p : Placeholder) :
    p.path.toList =
      (if p.contextRelative then ['$', '.'] else []) ++ (Text.dotted p.segments).toList := by
  rw [path, String.toList_append]
  cases p.contextRelative <;> rfl

/-- A path starts with the mark, which is then split off, or it is left as it is. -/
theorem splitMark_cases (path : List Char) :
    (∃ rest, path = '$' :: '.' :: rest ∧ splitMark path = (true, rest)) ∨
      (∀ rest, path ≠ '$' :: '.' :: rest) ∧ splitMark path = (false, path) := by
  by_cases hmark : ∃ rest, path = '$' :: '.' :: rest
  · left
    obtain ⟨rest, rfl⟩ := hmark
    exact ⟨rest, rfl, rfl⟩
  · right
    have hother : ∀ rest, path ≠ '$' :: '.' :: rest := fun rest heq => hmark ⟨rest, heq⟩
    exact ⟨hother, by simp only [Placeholder.splitMark]⟩

/-- The mark of a spelled-out path is recognised, and so is its absence. -/
theorem Spells.splitMark {p : Placeholder} {path : List Char} (h : p.Spells path) :
    splitMark path = (p.contextRelative, (Text.dotted p.segments).toList) := by
  rw [h.eq_path, toList_path]
  cases hmark : p.contextRelative with
  | true => rfl
  | false =>
    obtain ⟨first, rest, hfirst, halpha⟩ := h.dotted_cons
    have hdollar : first ≠ '$' := by
      rintro rfl
      exact absurd halpha (by decide)
    rw [hfirst]
    simp only [Bool.false_eq_true, if_false, List.nil_append]
    rcases splitMark_cases (first :: rest) with ⟨others, heq, -⟩ | ⟨-, hsplit⟩
    · exact absurd (List.cons.inj heq).1 hdollar
    · exact hsplit

/-- The mark and the rest of a path are the whole path. -/
theorem append_splitMark (path : List Char) :
    (if (Placeholder.splitMark path).1 then ['$', '.'] else []) ++ (Placeholder.splitMark path).2 =
      path := by
  rcases splitMark_cases path with ⟨rest, rfl, hsplit⟩ | ⟨-, hsplit⟩
  · rw [hsplit]
    rfl
  · rw [hsplit]
    rfl

/-- **The reader of paths accepts exactly the spelled-out paths.**

**Proof sketch.** Joining what has been split gives the path back, so what the reader returns is
spelled out by the path. Conversely the mark of a spelled-out path is recognised, since a segment
cannot start with a dollar sign, and its segments are found again, since they hold no dots. -/
theorem ofPath?_eq_some_iff {path : List Char} {p : Placeholder} :
    ofPath? path = some p ↔ p.Spells path := by
  constructor
  · intro h
    rcases hmark : Placeholder.splitMark path with ⟨mark, body⟩
    simp only [ofPath?, hmark] at h
    by_cases hall : (Text.splitDots body).all Request.isSegment = true
    · rw [if_pos hall] at h
      obtain rfl := Option.some.inj h
      rw [List.all_eq_true] at hall
      refine ⟨?_, ?_, ?_⟩
      · have hbody :
            (Text.splitDots body).map String.ofList = Text.undotted (String.ofList body) := by
          rw [Text.undotted, String.toList_ofList]
        have hpath := append_splitMark path
        rw [hmark] at hpath
        rw [toList_path, hbody, Text.dotted_undotted, String.toList_ofList]
        exact hpath.symm
      · simpa using Text.splitDots_ne_nil body
      · intro segment hsegment
        obtain ⟨characters, hmem, rfl⟩ := List.mem_map.1 hsegment
        rw [String.toList_ofList]
        exact hall characters hmem
    · simp [hall] at h
  · intro h
    have hsegments : Text.splitDots (Text.dotted p.segments).toList =
        p.segments.map String.toList := by
      have hundotted := congrArg (List.map String.toList) h.undotted_dotted
      rwa [Text.undotted, Text.map_toList_map_ofList] at hundotted
    have hall : (p.segments.map String.toList).all Request.isSegment = true := by
      rw [List.all_eq_true]
      intro characters hmem
      obtain ⟨segment, hsegment, rfl⟩ := List.mem_map.1 hmem
      exact h.isSegment segment hsegment
    simp only [ofPath?, h.splitMark, hsegments, hall, if_true, Text.map_ofList_map_toList]

/-- A path spells out only one placeholder. -/
theorem Spells.unique {p p' : Placeholder} {path : List Char} (h : p.Spells path)
    (h' : p'.Spells path) : p = p' :=
  Option.some.inj ((ofPath?_eq_some_iff.2 h).symm.trans (ofPath?_eq_some_iff.2 h'))

/-- **The reader of tokens accepts exactly the spelled-out paths between braces.** -/
theorem parse_eq_ok_iff {token : String} {p : Placeholder} :
    parse token = .ok p ↔ ∃ inner, Braced token.toList inner ∧ p.Spells inner := by
  constructor
  · intro h
    cases hbraced : braced? token.toList with
    | none => simp [parse, hbraced] at h
    | some inner =>
      cases hpath : ofPath? inner with
      | none => simp [parse, hbraced, hpath] at h
      | some placeholder =>
        simp only [parse, hbraced, hpath] at h
        obtain rfl := Except.ok.inj h
        exact ⟨inner, braced?_eq_some_iff.1 hbraced, ofPath?_eq_some_iff.1 hpath⟩
  · rintro ⟨inner, hbraced, hspells⟩
    simp only [parse, braced?_eq_some_iff.2 hbraced, ofPath?_eq_some_iff.2 hspells]

/-- A text between braces that spells out no path is named by the error.

**Proof sketch.** By whether the reader of paths accepts what is between the braces
(`ofPath?_eq_some_iff`). -/
theorem parse_eq_error_iff {token : String} {inner : List Char} (h : Braced token.toList inner)
    {e : TemplateError} :
    parse token = .error e ↔
      (∀ p : Placeholder, ¬p.Spells inner) ∧ e = .invalidPlaceholder (String.ofList inner) := by
  unfold parse
  rw [braced?_eq_some_iff.2 h]
  cases hpath : ofPath? inner with
  | some p =>
    have hspells := ofPath?_eq_some_iff.1 hpath
    simp only [hpath]
    constructor
    · simp
    · exact fun hnone => absurd hspells (hnone.1 p)
  | none =>
    have hnone : ∀ p : Placeholder, ¬p.Spells inner := fun p hp => by
      rw [ofPath?_eq_some_iff.2 hp] at hpath
      simp at hpath
    simp only [hpath]
    constructor
    · exact fun herror => ⟨hnone, (Except.error.inj herror).symm⟩
    · rintro ⟨-, rfl⟩
      rfl

end Placeholder

end Remap.Request
