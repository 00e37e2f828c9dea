set_option relaxedAutoImplicit false
set_option autoImplicit false

/-!
# Dotted paths

A dotted path is a list of segments joined by dots. Splitting at every dot gives at least one
segment, and none that holds a dot.

## Main definitions

* `Remap.Text.splitDots`, `Remap.Text.joinDots` — between characters and segments.
* `Remap.Text.undotted`, `Remap.Text.dotted` — the same for texts.

## Main results

* `Remap.Text.splitDots_cons_of_ne` — a character that is no dot joins the segment behind it.
* `Remap.Text.joinDots_splitDots` — splitting loses nothing.
* `Remap.Text.splitDots_joinDots` — segments without dots are found again.
* `Remap.Text.dotted_undotted`, `Remap.Text.undotted_dotted` — the same for texts.
* `Remap.Text.toList_dotted_singleton`, `Remap.Text.toList_dotted_cons` — a dotted path, segment
  by segment.
-/

namespace Remap.Text

/-- The segments between the dots. -/
def splitDots : List Char → List (List Char)
  | [] => [[]]
  | c :: rest =>
    if c = '.' then [] :: splitDots rest
    else
      match splitDots rest with
      | [] => [[c]]
      | segment :: segments => (c :: segment) :: segments

/-- The segments with dots between them. -/
def joinDots : List (List Char) → List Char
  | [] => []
  | [segment] => segment
  | segment :: segments => segment ++ '.' :: joinDots segments

/-- The segments of a dotted path. -/
def undotted (path : String) : List String :=
  (splitDots path.toList).map String.ofList

/-- The dotted path of segments. -/
def dotted (segments : List String) : String :=
  String.ofList (joinDots (segments.map String.toList))

/-- There is always a segment. -/
theorem splitDots_ne_nil (s : List Char) : splitDots s ≠ [] := by
  cases s with
  | nil => simp [splitDots]
  | cons c rest =>
    by_cases hdot : c = '.'
    · simp [splitDots, hdot]
    · cases hrest : splitDots rest <;> simp [splitDots, hdot, hrest]

/-- A character that is no dot joins the first segment behind it. -/
theorem splitDots_cons_of_ne {c : Char} (h : c ≠ '.') (rest : List Char) :
    ∃ segment segments, splitDots rest = segment :: segments ∧
      splitDots (c :: rest) = (c :: segment) :: segments := by
  obtain ⟨segment, segments, hrest⟩ := List.exists_cons_of_ne_nil (splitDots_ne_nil rest)
  exact ⟨segment, segments, hrest, by simp only [splitDots, if_neg h, hrest]⟩

/-- Joining with a further character at the start of the first segment. -/
theorem joinDots_cons_cons (c : Char) (segment : List Char) (segments : List (List Char)) :
    joinDots ((c :: segment) :: segments) = c :: joinDots (segment :: segments) := by
  cases segments <;> rfl

/-- Splitting loses nothing. -/
theorem joinDots_splitDots (s : List Char) : joinDots (splitDots s) = s := by
  induction s with
  | nil => rfl
  | cons c rest ih =>
    by_cases hdot : c = '.'
    · obtain ⟨segment, segments, hrest⟩ := List.exists_cons_of_ne_nil (splitDots_ne_nil rest)
      rw [splitDots, if_pos hdot]
      rw [hrest] at ih ⊢
      simp only [joinDots, List.nil_append, hdot, ih]
    · obtain ⟨segment, segments, hrest, hsplit⟩ := splitDots_cons_of_ne hdot rest
      rw [hrest] at ih
      rw [hsplit, joinDots_cons_cons, ih]

/-- A segment without dots before a dot is split off. -/
theorem splitDots_append {segment : List Char} (h : '.' ∉ segment) (s : List Char) :
    splitDots (segment ++ '.' :: s) = segment :: splitDots s := by
  induction segment with
  | nil => simp [splitDots]
  | cons c rest ih =>
    simp only [List.mem_cons, not_or] at h
    simp only [List.cons_append, splitDots, ih h.2, if_neg (Ne.symm h.1)]

/-- A text without dots is one segment. -/
theorem splitDots_eq_singleton {segment : List Char} (h : '.' ∉ segment) :
    splitDots segment = [segment] := by
  induction segment with
  | nil => rfl
  | cons c rest ih =>
    simp only [List.mem_cons, not_or] at h
    simp only [splitDots, ih h.2, if_neg (Ne.symm h.1)]

/-- Segments without dots are found again. -/
theorem splitDots_joinDots {segments : List (List Char)} (hne : segments ≠ [])
    (h : ∀ segment ∈ segments, '.' ∉ segment) : splitDots (joinDots segments) = segments := by
  fun_induction joinDots segments with
  | case1 => exact absurd rfl hne
  | case2 segment => exact splitDots_eq_singleton (h segment (by simp))
  | case3 segment segments hnil ih =>
    have hsegments : segments ≠ [] := fun hs => hnil hs
    rw [splitDots_append (h segment (by simp)),
      ih hsegments fun s hs => h s (List.mem_cons_of_mem _ hs)]

/-- Making texts of lists of characters loses nothing. -/
@[simp]
theorem map_toList_map_ofList (words : List (List Char)) :
    (words.map String.ofList).map String.toList = words := by
  simp [Function.comp_def]

/-- Taking texts apart loses nothing. -/
@[simp]
theorem map_ofList_map_toList (texts : List String) :
    (texts.map String.toList).map String.ofList = texts := by
  simp [Function.comp_def]

/-- A single segment is its own dotted path. -/
theorem toList_dotted_singleton (segment : String) :
    (dotted [segment]).toList = segment.toList := by
  simp [dotted, joinDots]

/-- A dot divides the first segment from the dotted path of the others. -/
theorem toList_dotted_cons (segment : String) {segments : List String} (hne : segments ≠ []) :
    (dotted (segment :: segments)).toList = segment.toList ++ '.' :: (dotted segments).toList := by
  obtain ⟨second, others, rfl⟩ := List.exists_cons_of_ne_nil hne
  simp [dotted, joinDots]

/-- Splitting a text at its dots loses nothing. -/
theorem dotted_undotted (path : String) : dotted (undotted path) = path := by
  rw [dotted, undotted, map_toList_map_ofList, joinDots_splitDots, String.ofList_toList]

/-- Names without dots are found again in their dotted path. -/
theorem undotted_dotted {segments : List String} (hne : segments ≠ [])
    (h : ∀ segment ∈ segments, '.' ∉ segment.toList) : undotted (dotted segments) = segments := by
  have hsplit : splitDots (joinDots (segments.map String.toList)) = segments.map String.toList := by
    refine splitDots_joinDots (by simpa using hne) ?_
    intro segment hsegment
    obtain ⟨name, hname, rfl⟩ := List.mem_map.1 hsegment
    exact h name hname
  rw [undotted, dotted, String.toList_ofList, hsplit, map_ofList_map_toList]

end Remap.Text
