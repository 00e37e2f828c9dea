import Remap.Text.Blank

set_option relaxedAutoImplicit false
set_option autoImplicit false

/-!
# Positions in a text

A reader moves over a text with a cursor: the characters still ahead, and how many bytes of UTF-8
the characters behind it take. The byte count is what error messages name as a position.

## Main definitions

* `Remap.Text.Cursor` — a place in a text.
* `Remap.Text.Cursor.Reads` — one cursor lies a given word behind another.
* `Remap.Text.Cursor.span`, `Remap.Text.Cursor.skipBlanks` — reading the longest run of a class.

## Main results

* `Remap.Text.Cursor.Reads.trans` — words read one after the other join.
* `Remap.Text.Cursor.reads_append_iff` — a word that is read is read part by part.
* `Remap.Text.Cursor.span_eq_iff`, `Remap.Text.Cursor.skipBlanks_eq_iff` — which word is the run.
* `Remap.Text.Cursor.span_of_pos`, `Remap.Text.Cursor.span_of_head?` — a run by its first character.
-/

namespace Remap.Text

/-- The number of bytes that the characters take in UTF-8. -/
def utf8Length : List Char → Nat
  | [] => 0
  | c :: rest => c.utf8Size + utf8Length rest

@[simp]
theorem utf8Length_nil : utf8Length [] = 0 := rfl

@[simp]
theorem utf8Length_cons (c : Char) (s : List Char) :
    utf8Length (c :: s) = c.utf8Size + utf8Length s := rfl

@[simp]
theorem utf8Length_append (s t : List Char) :
    utf8Length (s ++ t) = utf8Length s + utf8Length t := by
  induction s with
  | nil => simp
  | cons c rest ih => rw [List.cons_append, utf8Length_cons, utf8Length_cons, ih, Nat.add_assoc]

/-- A place in a text. -/
structure Cursor where
  /-- The bytes before the place. -/
  offset : Nat
  /-- The characters from the place on. -/
  rest : List Char
  deriving DecidableEq, Repr

namespace Cursor

/-- The start of a text. -/
def start (s : List Char) : Cursor :=
  ⟨0, s⟩

/-- The place after the given character, from which the given characters follow. -/
def after (c : Cursor) (read : Char) (rest : List Char) : Cursor :=
  ⟨c.offset + read.utf8Size, rest⟩

/-- The longest run of characters of a class, and the place after it. -/
def span (c : Cursor) (inClass : Char → Bool) : List Char × Cursor :=
  let run := c.rest.takeWhile inClass
  (run, ⟨c.offset + utf8Length run, c.rest.dropWhile inClass⟩)

/-- The place after all blanks that follow. -/
def skipBlanks (c : Cursor) : Cursor :=
  (c.span isBlank).2

/-- `c.Reads word d` says that `d` lies `word` behind `c`. -/
def Reads (c : Cursor) (word : List Char) (d : Cursor) : Prop :=
  c.rest = word ++ d.rest ∧ d.offset = c.offset + utf8Length word

/-- A place lies nothing behind itself. -/
theorem Reads.refl (c : Cursor) : c.Reads [] c := by
  simp [Reads]

/-- Words read one after the other join. -/
theorem Reads.trans {c d e : Cursor} {v w : List Char} (h : c.Reads v d) (h' : d.Reads w e) :
    c.Reads (v ++ w) e := by
  obtain ⟨hr, ho⟩ := h
  obtain ⟨hr', ho'⟩ := h'
  refine ⟨?_, ?_⟩
  · rw [hr, hr', List.append_assoc]
  · rw [ho', ho, utf8Length_append, Nat.add_assoc]

/-- A character lies between a place and the place after it. -/
theorem reads_after {c : Cursor} {ch : Char} {rest : List Char} (h : c.rest = ch :: rest) :
    c.Reads [ch] (c.after ch rest) := by
  simp [Reads, after, h]

/-- Nothing lies between a place and itself only. -/
@[simp]
theorem reads_nil_iff {c d : Cursor} : c.Reads [] d ↔ c = d := by
  obtain ⟨offset, rest⟩ := c
  obtain ⟨offset', rest'⟩ := d
  simp [Reads, eq_comm, and_comm]

/-- A word that is read is read part by part. -/
theorem reads_append_iff {c e : Cursor} {v w : List Char} :
    c.Reads (v ++ w) e ↔ ∃ d, c.Reads v d ∧ d.Reads w e := by
  constructor
  · rintro ⟨hrest, hoffset⟩
    refine ⟨⟨c.offset + utf8Length v, w ++ e.rest⟩, ⟨?_, rfl⟩, rfl, ?_⟩
    · rw [hrest, List.append_assoc]
    · rw [hoffset, utf8Length_append, Nat.add_assoc]
  · rintro ⟨d, hv, hw⟩
    exact hv.trans hw

/-- A word that is read is read from its first character on. -/
theorem reads_cons_iff {c d : Cursor} {ch : Char} {w : List Char} :
    c.Reads (ch :: w) d ↔ ∃ rest, c.rest = ch :: rest ∧ (c.after ch rest).Reads w d := by
  rw [← List.singleton_append, reads_append_iff]
  constructor
  · rintro ⟨⟨offset, rest⟩, ⟨hrest, hoffset⟩, hw⟩
    obtain rfl : offset = c.offset + ch.utf8Size := hoffset
    exact ⟨rest, hrest, hw⟩
  · rintro ⟨rest, hrest, hw⟩
    exact ⟨_, reads_after hrest, hw⟩

/-- The whole text lies between its start and its end. -/
theorem reads_start (s : List Char) : (start s).Reads s ⟨utf8Length s, []⟩ := by
  simp [Reads, start]

/-- A run is what lies between the two places. -/
theorem reads_span (c : Cursor) (inClass : Char → Bool) :
    c.Reads (c.span inClass).1 (c.span inClass).2 := by
  simp [Reads, span, List.takeWhile_append_dropWhile]

/-- Only blanks lie between a place and the one after its blanks. -/
theorem reads_skipBlanks (c : Cursor) : c.Reads (c.rest.takeWhile isBlank) c.skipBlanks :=
  c.reads_span isBlank

/-- A word of the class is the whole run where a character outside the class follows it. -/
theorem span_append {inClass : Char → Bool} {word rest : List Char} (offset : Nat)
    (hword : ∀ ch ∈ word, inClass ch = true) (hrest : ∀ ch ∈ rest.head?, inClass ch = false) :
    (Cursor.mk offset (word ++ rest)).span inClass = (word, ⟨offset + utf8Length word, rest⟩) := by
  have htake : rest.takeWhile inClass = [] := by
    cases rest with
    | nil => rfl
    | cons first others => simp [hrest first rfl]
  have hdrop : rest.dropWhile inClass = rest := by
    cases rest with
    | nil => rfl
    | cons first others => simp [hrest first rfl]
  simp only [span, List.takeWhile_append_of_pos hword, List.dropWhile_append_of_pos hword, htake,
    hdrop, List.append_nil]

/-- **The longest run of a class** is a word of the class with a character outside the class, or
nothing, behind it. -/
theorem span_eq_iff {inClass : Char → Bool} {c d : Cursor} {word : List Char} :
    c.span inClass = (word, d) ↔
      (∀ ch ∈ word, inClass ch = true) ∧ c.Reads word d ∧
        ∀ ch ∈ d.rest.head?, inClass ch = false := by
  constructor
  · intro h
    obtain ⟨rfl, rfl⟩ := Prod.mk.inj h
    refine ⟨List.all_eq_true.1 List.all_takeWhile, c.reads_span inClass, ?_⟩
    intro ch hch
    have hstop := List.head?_dropWhile_not inClass c.rest
    rw [show (c.rest.dropWhile inClass).head? = some ch from hch] at hstop
    exact hstop
  · rintro ⟨hword, ⟨hrest, hoffset⟩, hstop⟩
    obtain ⟨offset, rest⟩ := c
    obtain ⟨offset', rest'⟩ := d
    simp only at hrest hoffset hstop
    rw [hrest, hoffset, span_append offset hword hstop]

/-- Either a character of the class follows, or none. -/
theorem head?_cases (c : Cursor) (inClass : Char → Bool) :
    (∃ first rest, c.rest = first :: rest ∧ inClass first = true) ∨
      ∀ ch ∈ c.rest.head?, inClass ch = false := by
  cases hrest : c.rest with
  | nil => right; simp
  | cons first rest =>
    cases hfirst : inClass first with
    | true => left; exact ⟨first, rest, rfl, hfirst⟩
    | false => right; simpa using hfirst

/-- A run takes in the character that follows, if it belongs to the class. -/
theorem span_of_pos {inClass : Char → Bool} {c : Cursor} {first : Char} {rest : List Char}
    (hrest : c.rest = first :: rest) (hfirst : inClass first = true) :
    c.span inClass =
      (first :: ((c.after first rest).span inClass).1, ((c.after first rest).span inClass).2) := by
  obtain ⟨hword, hreads, hstop⟩ :=
    span_eq_iff.1 (rfl : (c.after first rest).span inClass = (_, _))
  exact span_eq_iff.2
    ⟨List.forall_mem_cons.2 ⟨hfirst, hword⟩, reads_cons_iff.2 ⟨rest, hrest, hreads⟩, hstop⟩

/-- Where no character of the class follows, the run is empty. -/
theorem span_of_head? {inClass : Char → Bool} {c : Cursor}
    (hstop : ∀ ch ∈ c.rest.head?, inClass ch = false) : c.span inClass = ([], c) :=
  span_eq_iff.2 ⟨by simp, Reads.refl c, hstop⟩

/-- Where a blank follows, the place after all blanks is that of the place behind it. -/
theorem skipBlanks_of_pos {c : Cursor} {first : Char} {rest : List Char}
    (hrest : c.rest = first :: rest) (hfirst : isBlank first = true) :
    c.skipBlanks = (c.after first rest).skipBlanks := by
  rw [skipBlanks, span_of_pos hrest hfirst, skipBlanks]

/-- Where no blank follows, there is none to skip. -/
theorem skipBlanks_of_head? {c : Cursor} (hstop : ∀ ch ∈ c.rest.head?, isBlank ch = false) :
    c.skipBlanks = c := by
  rw [skipBlanks, span_of_head? hstop]

/-- The place after all blanks lies a text of blanks further on, where no blank follows. -/
theorem skipBlanks_eq_iff {c d : Cursor} :
    c.skipBlanks = d ↔
      (∃ w, Blanks w ∧ c.Reads w d) ∧ ∀ ch ∈ d.rest.head?, isBlank ch = false := by
  constructor
  · rintro rfl
    obtain ⟨hblanks, hreads, hstop⟩ := span_eq_iff.1 (rfl : c.span isBlank = (_, c.skipBlanks))
    exact ⟨⟨_, hblanks, hreads⟩, hstop⟩
  · rintro ⟨⟨w, hw, hreads⟩, hstop⟩
    rw [skipBlanks, span_eq_iff.2 ⟨hw, hreads, hstop⟩]

/-- Reading a word leaves the text shorter by the word. -/
theorem Reads.length_rest {c d : Cursor} {word : List Char} (h : c.Reads word d) :
    c.rest.length = word.length + d.rest.length := by
  rw [h.1, List.length_append]

end Cursor

end Remap.Text
