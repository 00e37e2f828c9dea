import Mathlib.Logic.Relation
import Remap.Proofs.Text.Position

set_option relaxedAutoImplicit false
set_option autoImplicit false

/-!
# Scanners

A scanner knows the byte at which it stands and nothing else of its place in the text. Before every
move it cuts the text there and looks at what is behind the cut; then it goes on by a number of
bytes, or it ends. Nothing in this keeps it from standing in the middle of a character, where the
text cannot be cut, or from moving for ever. That it does neither is shown for all scanners whose
moves agree with a reader on cursors: they go on by characters that lie ahead, what the reader makes
of the rest stays the same, and a move by no bytes leads to a stage of a higher label.

## Main definitions

* `Remap.Text.suffixAt?` — the text behind a byte.
* `Remap.Text.Scanner`, `Remap.Text.Scanner.act`, `Remap.Text.Scanner.Step` — scanners and their
  moves.
* `Remap.Text.Scanner.Safe` — what can be said of every run.
* `Remap.Text.Scanner.Follows` — the moves of a scanner agree with a reader.

## Main results

* `Remap.Text.suffixAt?_eq_some_iff` — a text can be cut between two of its characters.
* `Remap.Text.Scanner.Follows.sound_of_step` — what one move keeps.
* `Remap.Text.Scanner.Follows.safe` — a scanner that agrees with a reader is safe, and ends with
  what the reader returns.

## Design

The stages of a scanner are the places of a program at which it looks at the next character, with
what it has read so far; the label says which place that is. A loop of the program comes back to its
place, so that it is covered by what is said of two states of the same label.
-/

namespace Remap.Text

/-! ## Cutting a text at a byte -/

/-- The characters behind a byte; `none` in the middle of a character and behind the end. -/
def suffixAt? : List Char → Nat → Option (List Char)
  | s, 0 => some s
  | [], _ + 1 => none
  | c :: rest, position + 1 =>
    if c.utf8Size ≤ position + 1 then suffixAt? rest (position + 1 - c.utf8Size) else none

/-- **A text can be cut between two of its characters** and at its ends, and nowhere else.

**Proof sketch.** By the recursion of the cut. A character is at least one byte, so that a first
part of no bytes is empty, and a first part of some bytes begins with the first character. -/
theorem suffixAt?_eq_some_iff {s rest : List Char} {position : Nat} :
    suffixAt? s position = some rest ↔
      ∃ front, s = front ++ rest ∧ utf8Length front = position := by
  fun_induction suffixAt? s position with
  | case1 s =>
    rw [Option.some.injEq]
    constructor
    · rintro rfl
      exact ⟨[], rfl, rfl⟩
    · rintro ⟨front, rfl, hfront⟩
      cases front with
      | nil => rfl
      | cons c front =>
        have hpos := c.utf8Size_pos
        rw [utf8Length_cons] at hfront
        omega
  | case2 position =>
    simp only [reduceCtorEq, false_iff, not_exists, not_and]
    intro front hs hfront
    obtain ⟨rfl, -⟩ := List.append_eq_nil_iff.1 hs.symm
    simp at hfront
  | case3 c others position hle ih =>
    rw [ih]
    constructor
    · rintro ⟨front, rfl, hfront⟩
      refine ⟨c :: front, rfl, ?_⟩
      rw [utf8Length_cons, hfront, Nat.add_sub_cancel' hle]
    · rintro ⟨front, hs, hfront⟩
      cases front with
      | nil => simp at hfront
      | cons first front =>
        obtain ⟨rfl, rfl⟩ := List.cons.inj hs
        rw [utf8Length_cons] at hfront
        exact ⟨front, rfl, (Nat.sub_eq_of_eq_add' hfront.symm).symm⟩
  | case4 c others position hlt =>
    simp only [reduceCtorEq, false_iff, not_exists, not_and]
    intro front hs hfront
    cases front with
    | nil => simp at hfront
    | cons first front =>
      obtain ⟨rfl, rfl⟩ := List.cons.inj hs
      rw [utf8Length_cons] at hfront
      omega

/-! ## Scanners and their runs -/

/-- What a scanner does next: it goes on by some bytes to another stage, or it ends. -/
inductive Move (σ ρ : Type) where
  | advance (bytes : Nat) (stage : σ)
  | finish (result : ρ)

/-- The move of a loop over the characters of a class: by one such character, and otherwise the
move behind the loop. -/
def Move.loop {σ ρ : Type} (inClass : Char → Bool) (again : Char → σ) (stop : Move σ ρ) :
    List Char → Move σ ρ
  | [] => stop
  | first :: _ => if inClass first then .advance first.utf8Size (again first) else stop

/-- A scanner: the stage in which it starts, and its move in every stage, by the position and the
characters ahead. The label of a stage is the place of the program that it belongs to. -/
structure Scanner (σ ρ : Type) where
  initial : σ
  move : σ → Nat → List Char → Move σ ρ
  label : σ → Nat

namespace Scanner

/-- The byte at which a scanner stands, and its stage. -/
structure State (σ : Type) where
  position : Nat
  stage : σ

variable {σ ρ : Type} (m : Scanner σ ρ) (text : String)

/-- The move of a scanner; `none` where the text cannot be cut at its position. -/
def act (p : State σ) : Option (Move σ ρ) :=
  (suffixAt? text.toList p.position).map (m.move p.stage p.position)

/-- One move from a state to the next one. -/
inductive Step : State σ → State σ → Prop
  | mk {p : State σ} {bytes : Nat} {stage : σ} (h : m.act text p = some (.advance bytes stage)) :
      Step p ⟨p.position + bytes, stage⟩

/-- The states that a run over the text comes to. -/
def Reached (p : State σ) : Prop :=
  Relation.ReflTransGen (m.Step text) ⟨0, m.initial⟩ p

/-- What can be said of every run of a scanner over the text that ends with the result. -/
structure Safe (result : ρ) : Prop where
  /-- It stands between two characters of the text, or at its ends. -/
  isValid : ∀ p, m.Reached text p → (⟨p.position⟩ : String.Pos.Raw).IsValid text
  /-- It can always cut the text where it stands. -/
  act_ne_none : ∀ p, m.Reached text p → m.act text p ≠ none
  /-- It never goes back. -/
  position_le : ∀ p q, m.Reached text p → Relation.ReflTransGen (m.Step text) p q →
    p.position ≤ q.position
  /-- It comes back to a place of the program only further on in the text. -/
  position_lt : ∀ p q, m.Reached text p → Relation.TransGen (m.Step text) p q →
    m.label p.stage = m.label q.stage → p.position < q.position
  /-- It comes to an end, from wherever it is. -/
  ends : ∀ p, m.Reached text p → ∃ last, Relation.ReflTransGen (m.Step text) p last ∧
    m.act text last = some (.finish result)

/-! ## Scanners that follow a reader -/

/-- `m.Fits resume stage c move` says that the move from the stage agrees with what the reader
`resume` makes of the text from the place on. It goes on by characters that lie ahead, the reader
returns the same from there, and a move by no character leads to a higher label. A result is that
of the reader. -/
def Fits (resume : σ → Cursor → ρ) (stage : σ) (c : Cursor) : Move σ ρ → Prop
  | .advance bytes next => ∃ word d, c.Reads word d ∧ utf8Length word = bytes ∧
      (word ≠ [] ∨ m.label stage < m.label next) ∧ resume next d = resume stage c
  | .finish result => result = resume stage c

/-- Every move of the scanner agrees with the reader, and its labels are bounded. -/
structure Follows (resume : σ → Cursor → ρ) (bound : Nat) : Prop where
  fits : ∀ stage c, m.Fits resume stage c (m.move stage c.offset c.rest)
  label_le : ∀ stage, m.label stage ≤ bound

section Fits

variable {m} {resume : σ → Cursor → ρ} {stage next : σ} {c : Cursor}

/-- A move by the character that follows. -/
theorem fits_after {first : Char} {rest : List Char} (hrest : c.rest = first :: rest)
    (h : resume next (c.after first rest) = resume stage c) :
    m.Fits resume stage c (.advance first.utf8Size next) :=
  ⟨[first], c.after first rest, Cursor.reads_after hrest, rfl, .inl (List.cons_ne_nil _ _), h⟩

/-- A move by no character. -/
theorem fits_stay (hlabel : m.label stage < m.label next) (h : resume next c = resume stage c) :
    m.Fits resume stage c (.advance 0 next) :=
  ⟨[], c, Cursor.Reads.refl c, rfl, .inr hlabel, h⟩

/-- The move of a loop agrees with the reader if it does inside the loop and behind it. -/
theorem fits_loop {inClass : Char → Bool} {again : Char → σ} {stop : Move σ ρ}
    (hagain : ∀ first rest, c.rest = first :: rest → inClass first = true →
      resume (again first) (c.after first rest) = resume stage c)
    (hstop : (∀ ch ∈ c.rest.head?, inClass ch = false) → m.Fits resume stage c stop) :
    m.Fits resume stage c (Move.loop inClass again stop c.rest) := by
  cases hrest : c.rest with
  | nil => exact hstop (by simp [hrest])
  | cons first rest =>
    by_cases hfirst : inClass first = true
    · rw [Move.loop, if_pos hfirst]
      exact fits_after hrest (hagain first rest hrest hfirst)
    · rw [Move.loop, if_neg hfirst]
      exact hstop (by simpa [hrest] using hfirst)

/-- The move of a loop over blanks agrees with a reader that skips them. -/
theorem fits_blanks {after : σ} (hlabel : m.label stage < m.label after)
    (h : ∀ d, resume stage d = resume after d.skipBlanks) :
    m.Fits resume stage c (Move.loop isBlank (fun _ => stage) (.advance 0 after) c.rest) := by
  refine fits_loop (fun first rest hrest hfirst => ?_) fun hstop => fits_stay hlabel ?_
  · rw [h, h c, Cursor.skipBlanks_of_pos hrest hfirst]
  · rw [h, Cursor.skipBlanks_of_head? hstop]

end Fits

namespace Follows

variable {m text} {resume : σ → Cursor → ρ} {bound : Nat}

/-- The scanner stands between two characters of the text, and from there the reader returns what it
returns from the start. -/
def Sound (m : Scanner σ ρ) (text : String) (resume : σ → Cursor → ρ) (p : State σ) : Prop :=
  ∃ front c, (Cursor.start text.toList).Reads front c ∧ c.offset = p.position ∧
    resume p.stage c = resume m.initial (Cursor.start text.toList)

/-- Where the scanner stands between two characters it looks at those ahead. -/
theorem act_eq {front : List Char} {c : Cursor} {p : State σ}
    (hreads : (Cursor.start text.toList).Reads front c) (hposition : c.offset = p.position) :
    m.act text p = some (m.move p.stage c.offset c.rest) := by
  have hcut : suffixAt? text.toList p.position = some c.rest := by
    refine suffixAt?_eq_some_iff.2 ⟨front, hreads.1, ?_⟩
    rw [← hposition, hreads.2, Cursor.start, Nat.zero_add]
  rw [act, hcut, hposition]
  rfl

/-- **What one move keeps.** The scanner stands between two characters again, with the same outcome
ahead, and either it is further on in the text or it stands at a place of the program with a higher
label. -/
theorem sound_of_step (h : m.Follows resume bound) {p q : State σ} (hp : Sound m text resume p)
    (hstep : m.Step text p q) :
    Sound m text resume q ∧
      (p.position < q.position ∨
        p.position = q.position ∧ m.label p.stage < m.label q.stage) := by
  obtain ⟨front, c, hreads, hposition, hresume⟩ := hp
  cases hstep with
  | @mk bytes stage hact =>
    have hmove := Option.some.inj ((act_eq hreads hposition).symm.trans hact)
    have hfits := h.fits p.stage c
    rw [hmove] at hfits
    obtain ⟨word, d, hword, rfl, hprogress, hsame⟩ := hfits
    have hd : d.offset = p.position + utf8Length word := by rw [hword.2, hposition]
    refine ⟨⟨_, d, hreads.trans hword, hd, hsame.trans hresume⟩, ?_⟩
    cases word with
    | nil =>
      right
      exact ⟨rfl, hprogress.resolve_left fun hne => hne rfl⟩
    | cons first word =>
      left
      have hpos : 0 < utf8Length (first :: word) :=
        Nat.lt_of_lt_of_le first.utf8Size_pos (Nat.le_add_right _ _)
      exact Nat.lt_add_of_pos_right hpos

/-- What a whole run keeps. -/
theorem sound_of_run (h : m.Follows resume bound) {p q : State σ} (hp : Sound m text resume p)
    (hrun : Relation.ReflTransGen (m.Step text) p q) :
    Sound m text resume q ∧ p.position ≤ q.position := by
  induction hrun with
  | refl => exact ⟨hp, Nat.le_refl _⟩
  | @tail q r _ hstep ih =>
    obtain ⟨hr, hprogress⟩ := h.sound_of_step ih.1 hstep
    have hle := ih.2
    exact ⟨hr, by omega⟩

/-- Every state that a run over the text comes to is sound. -/
theorem sound_of_reached (h : m.Follows resume bound) {p : State σ} (hp : m.Reached text p) :
    Sound m text resume p :=
  (h.sound_of_run ⟨[], _, Cursor.Reads.refl _, rfl, rfl⟩ hp).1

/-- The weight of a state: how far the scanner is in the text, and then in the program. -/
def weight (m : Scanner σ ρ) (bound : Nat) (p : State σ) : Nat :=
  p.position * (bound + 1) + m.label p.stage

/-- **Every move makes the state heavier.** -/
theorem weight_lt_of_step (h : m.Follows resume bound) {p q : State σ}
    (hp : Sound m text resume p) (hstep : m.Step text p q) :
    weight m bound p < weight m bound q := by
  have hlabel := h.label_le p.stage
  unfold weight
  obtain ⟨-, hfurther | ⟨hposition, hhigher⟩⟩ := h.sound_of_step hp hstep
  · have hmul : (p.position + 1) * (bound + 1) ≤ q.position * (bound + 1) :=
      Nat.mul_le_mul_right _ hfurther
    rw [Nat.succ_mul] at hmul
    omega
  · rw [hposition]
    omega

/-- So does every run of at least one move. -/
theorem weight_lt_of_run (h : m.Follows resume bound) {p q : State σ}
    (hp : Sound m text resume p) (hrun : Relation.TransGen (m.Step text) p q) :
    weight m bound p < weight m bound q := by
  induction hrun with
  | single hstep => exact h.weight_lt_of_step hp hstep
  | @tail q r hrun hstep ih =>
    exact Nat.lt_trans ih (h.weight_lt_of_step (h.sound_of_run hp hrun.to_reflTransGen).1 hstep)

/-- No state is heavier than one at the end of the text. -/
theorem weight_le (h : m.Follows resume bound) {p : State σ} (hp : Sound m text resume p) :
    weight m bound p ≤ utf8Length text.toList * (bound + 1) + bound := by
  obtain ⟨front, c, hreads, hposition, -⟩ := hp
  have hlabel := h.label_le p.stage
  have hle : p.position ≤ utf8Length text.toList := by
    have hoffset : c.offset = utf8Length front := by rw [hreads.2, Cursor.start, Nat.zero_add]
    rw [show text.toList = _ from hreads.1, utf8Length_append, ← hposition, hoffset]
    exact Nat.le_add_right _ _
  have hmul : p.position * (bound + 1) ≤ utf8Length text.toList * (bound + 1) :=
    Nat.mul_le_mul_right _ hle
  unfold weight
  omega

/-- **The scanner comes to an end**, with what the reader returns.

**Proof sketch.** Induction on the weight that is left to the end of the text. A move of the scanner
either ends with the result or makes the state heavier. -/
theorem exists_finish (h : m.Follows resume bound) {p : State σ} (hp : Sound m text resume p) :
    ∃ last, Relation.ReflTransGen (m.Step text) p last ∧
      m.act text last = some (.finish (resume m.initial (Cursor.start text.toList))) := by
  generalize hleft : utf8Length text.toList * (bound + 1) + bound - weight m bound p = left
  induction left using Nat.strongRecOn generalizing p with
  | _ left ih =>
    obtain ⟨front, c, hreads, hposition, hresume⟩ := hp
    have hact : m.act text p = some (m.move p.stage c.offset c.rest) := act_eq hreads hposition
    have hfits := h.fits p.stage c
    cases hmove : m.move p.stage c.offset c.rest with
    | finish result =>
      rw [hmove] at hact hfits
      refine ⟨p, .refl, ?_⟩
      rw [hact, show result = _ from hfits, hresume]
    | advance bytes stage =>
      rw [hmove] at hact
      have hp : Sound m text resume p := ⟨front, c, hreads, hposition, hresume⟩
      have hstep : m.Step text p ⟨p.position + bytes, stage⟩ := .mk hact
      have hnext := (h.sound_of_step hp hstep).1
      have hlt := h.weight_lt_of_step hp hstep
      have hle := h.weight_le hnext
      obtain ⟨last, hrun, hlast⟩ := ih _ (by omega) hnext rfl
      exact ⟨last, .head hstep hrun, hlast⟩

/-- **A scanner that follows a reader is safe**, and ends with what the reader returns.

**Proof sketch.** Every state that a run comes to stands between two characters
(`sound_of_reached`), so that the text can be cut there. Between two states of one label the weight
grows by the position alone (`weight_lt_of_run`), and the weight is bounded. -/
theorem safe (h : m.Follows resume bound) (text : String) :
    m.Safe text (resume m.initial (Cursor.start text.toList)) where
  isValid p hp := by
    obtain ⟨front, c, hreads, hposition, -⟩ := h.sound_of_reached hp
    exact Cursor.ahead_start_iff.1 ⟨front, c, hreads, hposition⟩
  act_ne_none p hp := by
    obtain ⟨front, c, hreads, hposition, -⟩ := h.sound_of_reached hp
    rw [act_eq hreads hposition]
    exact Option.some_ne_none _
  position_le p q hp hrun := (h.sound_of_run (h.sound_of_reached hp) hrun).2
  position_lt p q hp hrun hlabel := by
    have hlt := h.weight_lt_of_run (h.sound_of_reached hp) hrun
    unfold weight at hlt
    rw [hlabel] at hlt
    exact Nat.lt_of_mul_lt_mul_right (Nat.lt_of_add_lt_add_right hlt)
  ends p hp := h.exists_finish (h.sound_of_reached hp)

end Follows

end Scanner

end Remap.Text
