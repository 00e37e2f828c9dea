import Remap.Proofs.Text.Scanner
import Remap.Proofs.Uri.Completeness

set_option relaxedAutoImplicit false
set_option autoImplicit false

/-!
# The reader of URI templates as a scanner

The reader of templates by its single moves over bytes. It keeps the parts that are complete and the
characters of the literal that it is in, and goes over two bytes at once where a brace is doubled.

## Main definitions

* `Remap.Uri.Stage` — the places of the reader, with what it has read so far.
* `Remap.Uri.scanner` — its moves.
* `Remap.Uri.resume` — what the reader makes of the text from a stage on.

## Main results

* `Remap.Uri.Part.ofItems_variable` — a variable ends the literal before it.
* `Remap.Uri.completeItems_eq` — how reading goes on behind each item.
* `Remap.Uri.follows` — every move of the scanner agrees with the reader.
-/

namespace Remap.Uri

open Remap.Text (Cursor Move Scanner isBlank utf8Length)

/-! ## Stages and moves -/

/-- The places at which the reader looks at the next character, with what it has read so far: the
complete parts, and the pieces of the literal or of the variable that it is in. -/
inductive Stage where
  /-- Between two items. -/
  | items (parts : List Part) (run : List Char)
  /-- Among the blanks behind an opening brace. -/
  | opened (parts : List Part)
  /-- Where an operator may stand. -/
  | sign (parts : List Part)
  /-- In the name of a variable. -/
  | name (parts : List Part) (operator : Operator) (word : List Char)
  /-- Among the blanks behind a name. -/
  | named (parts : List Part) (operator : Operator) (word : String)
  /-- Where an equals sign may stand. -/
  | equals (parts : List Part) (operator : Operator) (word : String)
  /-- In a default value. -/
  | fallback (parts : List Part) (operator : Operator) (word : String) (text : List Char)
  /-- Where a closing brace is due. -/
  | closing (parts : List Part) (value : Variable)

/-- The place of a stage. -/
def Stage.label : Stage → Nat
  | .items .. => 0
  | .opened _ => 1
  | .sign _ => 2
  | .name .. => 3
  | .named .. => 4
  | .equals .. => 5
  | .fallback .. => 6
  | .closing .. => 7

/-- The move between two items. A doubled brace is gone over at once. -/
def itemsMove (parts : List Part) (run : List Char) (position : Nat) :
    List Char → Move Stage (Except SyntaxError Template)
  | [] => .finish (.ok ⟨parts ++ Part.literals run⟩)
  | first :: rest =>
    if first = '{' then
      if rest.head? = some '{' then .advance 2 (.items parts (run ++ ['{']))
      else .advance first.utf8Size (.opened (parts ++ Part.literals run))
    else if first = '}' then
      if rest.head? = some '}' then .advance 2 (.items parts (run ++ ['}']))
      else .finish (.error (.unexpectedClosingBrace position))
    else .advance first.utf8Size (.items parts (run ++ [first]))

/-- The move behind the characters of a name. -/
def endedMove (parts : List Part) (operator : Operator) (word : List Char) (position : Nat) :
    Move Stage (Except SyntaxError Template) :=
  if word = [] then .finish (.error (.emptyName position))
  else .advance 0 (.named parts operator (String.ofList word))

/-- The move at a character that does not belong to a name, or at the end of the text. -/
def nameMove (parts : List Part) (operator : Operator) (word : List Char) (position : Nat) :
    List Char → Move Stage (Except SyntaxError Template)
  | [] => endedMove parts operator word position
  | first :: _ =>
    if endsName first then endedMove parts operator word position
    else .finish (.error (.invalidNameCharacter first position))

/-- The move in a stage, by the position and the characters ahead. -/
def Stage.move : Stage → Nat → List Char → Move Stage (Except SyntaxError Template)
  | .items parts run, position, rest => itemsMove parts run position rest
  | .opened parts, _, rest =>
    Move.loop isBlank (fun _ => .opened parts) (.advance 0 (.sign parts)) rest
  | .sign parts, _, rest =>
    match rest with
    | [] => .advance 0 (.name parts .simple [])
    | first :: _ =>
      if first = '+' then .advance first.utf8Size (.name parts .reserved [])
      else if first = '/' then .advance first.utf8Size (.name parts .segment [])
      else .advance 0 (.name parts .simple [])
  | .name parts operator word, position, rest =>
    Move.loop isNameChar (fun first => .name parts operator (word ++ [first]))
      (nameMove parts operator word position rest) rest
  | .named parts operator word, _, rest =>
    Move.loop isBlank (fun _ => .named parts operator word)
      (.advance 0 (.equals parts operator word)) rest
  | .equals parts operator word, _, rest =>
    match rest with
    | [] => .advance 0 (.closing parts ⟨word, operator, none⟩)
    | first :: _ =>
      if first = '=' then .advance first.utf8Size (.fallback parts operator word [])
      else .advance 0 (.closing parts ⟨word, operator, none⟩)
  | .fallback parts operator word text, _, rest =>
    Move.loop (· ≠ '}') (fun first => .fallback parts operator word (text ++ [first]))
      (.advance 0 (.closing parts ⟨word, operator, some (String.ofList (Text.trim text))⟩)) rest
  | .closing parts value, position, rest =>
    match rest with
    | [] => .finish (.error .missingClosingBrace)
    | first :: _ =>
      if first = '}' then .advance first.utf8Size (.items (parts ++ [.variable value]) [])
      else .finish (.error (.expectedClosingBrace first position))

/-- The reader of URI templates by its moves over bytes. -/
def scanner : Scanner Stage (Except SyntaxError Template) where
  initial := .items [] []
  move := Stage.move
  label := Stage.label

/-! ## Reading on from a stage -/

/-- **A variable ends the literal before it.** -/
theorem Part.ofItems_variable (run : List Char) (v : Variable) (items : List Item) :
    Part.ofItems (run.map .char ++ .variable v :: items) =
      Part.literals run ++ .variable v :: Part.ofItems items :=
  Part.ofItems_eq_iff.2 (.cons run v (Part.ofItems_eq_iff.1 rfl))

/-- The template whose first parts have been read, and the first characters of its next literal. -/
def completeItems (parts : List Part) (run : List Char) (c : Cursor) :
    Except SyntaxError Template :=
  (readItems c).map fun items => ⟨parts ++ Part.ofItems (run.map .char ++ items)⟩

/-- The template from the closing brace of a variable on. -/
def completeClosing (parts : List Part) (value : Variable) (c : Cursor) :
    Except SyntaxError Template :=
  (readClosing c).bind (completeItems (parts ++ [.variable value]) [])

/-- The template from the end of a name on. -/
def completeNamed (parts : List Part) (operator : Operator) (word : String) (c : Cursor) :
    Except SyntaxError Template :=
  completeClosing parts ⟨word, operator, (readFallback c).1⟩ (readFallback c).2

/-- The name at a place, of which the given characters have been read. -/
def nameFrom (word : List Char) (c : Cursor) : Except SyntaxError (String × Cursor) :=
  let next := (c.span isNameChar).2
  match next.rest with
  | [] => named (word ++ (c.span isNameChar).1) next
  | first :: _ =>
    if endsName first then named (word ++ (c.span isNameChar).1) next
    else .error (.invalidNameCharacter first next.offset)

/-- The template from a name on, of which the given characters have been read. -/
def completeName (parts : List Part) (operator : Operator) (word : List Char) (c : Cursor) :
    Except SyntaxError Template :=
  (nameFrom word c).bind fun (word, next) => completeNamed parts operator word next.skipBlanks

/-- What the reader makes of the text from a stage on. -/
def resume : Stage → Cursor → Except SyntaxError Template
  | .items parts run, c => completeItems parts run c
  | .opened parts, c =>
    completeName parts (readOperator c.skipBlanks).1 [] (readOperator c.skipBlanks).2
  | .sign parts, c => completeName parts (readOperator c).1 [] (readOperator c).2
  | .name parts operator word, c => completeName parts operator word c
  | .named parts operator word, c => completeNamed parts operator word c.skipBlanks
  | .equals parts operator word, c => completeNamed parts operator word c
  | .fallback parts operator word text, c =>
    completeClosing parts
      ⟨word, operator, some (String.ofList (Text.trim (text ++ (c.span (· ≠ '}')).1)))⟩
      (c.span (· ≠ '}')).2
  | .closing parts value, c => completeClosing parts value c

/-- The whole text is what the reader makes of it from the first stage on. -/
theorem resume_items (text : String) :
    resume (.items [] []) (Cursor.start text.toList) = parse text := rfl

/-- **How reading goes on behind each item.** -/
theorem completeItems_eq (parts : List Part) (run : List Char) (c : Cursor) :
    completeItems parts run c =
      match readItem? c with
      | .error error => .error error
      | .ok none => .ok ⟨parts ++ Part.literals run⟩
      | .ok (some (.char ch, next)) => completeItems parts (run ++ [ch]) next
      | .ok (some (.variable v, next)) =>
        completeItems (parts ++ Part.literals run ++ [.variable v]) [] next := by
  unfold completeItems
  rw [readItems_eq]
  cases readItem? c with
  | error error => rfl
  | ok result =>
    match result with
    | none =>
      have hlast : Part.ofItems (run.map .char) = Part.literals run :=
        Part.ofItems_eq_iff.2 (.last run)
      simp [Except.map, hlast]
    | some (.char ch, next) =>
      cases hnext : readItems next <;> simp [Except.map, hnext]
    | some (.variable v, next) =>
      cases hnext : readItems next <;> simp [Except.map, hnext, Part.ofItems_variable]

/-- A variable is read by the stages behind its opening brace. -/
theorem resume_opened (parts : List Part) (c : Cursor) :
    resume (.opened parts) c =
      (readVariable c).bind fun r => completeItems (parts ++ [.variable r.1]) [] r.2 := by
  have hname : nameFrom [] (readOperator c.skipBlanks).2 = readName (readOperator c.skipBlanks).2 :=
    rfl
  simp only [resume, completeName, hname, readVariable]
  cases readName (readOperator c.skipBlanks).2 with
  | error error => rfl
  | ok result =>
    simp only [Except.bind, completeNamed, completeClosing]
    cases readClosing (readFallback result.2.skipBlanks).2 <;> rfl

/-- A name takes in the next of its characters. -/
theorem nameFrom_of_pos {word rest : List Char} {c : Cursor} {first : Char}
    (hrest : c.rest = first :: rest) (hfirst : isNameChar first = true) :
    nameFrom word c = nameFrom (word ++ [first]) (c.after first rest) := by
  simp only [nameFrom, Cursor.span_of_pos hrest hfirst, List.append_assoc, List.singleton_append]

/-! ## The moves agree with the reader -/

section Fits

variable {c : Cursor}

/-- A move over a doubled brace. -/
theorem fits_doubled {stage next : Stage} {brace : Char} {rest : List Char}
    (hrest : c.rest = brace :: brace :: rest) (hbrace : brace.utf8Size = 1)
    (h : resume next ⟨c.offset + 2, rest⟩ = resume stage c) :
    scanner.Fits resume stage c (.advance 2 next) := by
  have htwo : utf8Length [brace, brace] = 2 := by simp [hbrace]
  exact ⟨[brace, brace], ⟨c.offset + 2, rest⟩, ⟨hrest, by rw [htwo]⟩, htwo,
    .inl (List.cons_ne_nil _ _), h⟩

/-- Between two items.

**Proof sketch.** By what the reader can do there (`readItem?_cases`). A doubled brace is gone over
at once, and behind an opening brace the stages of a variable read on as the reader does. -/
theorem fits_items (parts : List Part) (run : List Char) :
    scanner.Fits resume (.items parts run) c (Stage.move (.items parts run) c.offset c.rest) := by
  have hgoesOn : resume (.items parts run) c = _ := completeItems_eq parts run c
  rcases readItem?_cases c with ⟨hrest, hread⟩ | ⟨brace, rest, hbrace, hrest, hread⟩ |
    ⟨rest, hrest, hhead, hread⟩ | ⟨rest, hrest, hhead, hread⟩ |
    ⟨first, rest, hrest, hopening, hclosing, hread⟩
  all_goals rw [hread] at hgoesOn; rw [hrest, Stage.move]
  · exact hgoesOn.symm
  · rcases hbrace with rfl | rfl
    · exact fits_doubled hrest (by decide) hgoesOn.symm
    · exact fits_doubled hrest (by decide) hgoesOn.symm
  · rw [itemsMove, if_pos rfl, if_neg hhead]
    refine Scanner.fits_after hrest ?_
    rw [resume_opened, hgoesOn]
    cases readVariable (c.after '{' rest) <;> rfl
  · rw [itemsMove, if_neg (by decide), if_pos rfl, if_neg hhead]
    exact hgoesOn.symm
  · rw [itemsMove, if_neg hopening, if_neg hclosing]
    exact Scanner.fits_after hrest hgoesOn.symm

/-- Where an operator may stand. -/
theorem fits_sign (parts : List Part) :
    scanner.Fits resume (.sign parts) c (Stage.move (.sign parts) c.offset c.rest) := by
  rcases readOperator_cases c with ⟨rest, hrest, hread⟩ | ⟨rest, hrest, hread⟩ | ⟨hnone, hread⟩
  · rw [hrest]
    refine Scanner.fits_after hrest ?_
    simp only [resume, hread]
  · rw [hrest]
    refine Scanner.fits_after hrest ?_
    simp only [resume, hread]
  · have hmove :
        Stage.move (.sign parts) c.offset c.rest = .advance 0 (.name parts .simple []) := by
      cases hrest : c.rest with
      | nil => rfl
      | cons first rest =>
        obtain ⟨hplus, hslash⟩ := hnone first (by rw [hrest]; rfl)
        rw [Stage.move, if_neg hplus, if_neg hslash]
    rw [hmove]
    refine Scanner.fits_stay (show 2 < 3 by decide) ?_
    simp only [resume, hread]

/-- Behind the characters of a name. -/
theorem fits_endedMove {parts : List Part} {operator : Operator} {word : List Char}
    (hstage : resume (.name parts operator word) c = (named word c).bind fun (word, next) =>
      completeNamed parts operator word next.skipBlanks) :
    scanner.Fits resume (.name parts operator word) c
      (endedMove parts operator word c.offset) := by
  rw [named] at hstage
  rw [endedMove]
  by_cases hword : word = []
  · rw [if_pos hword] at hstage ⊢
    exact hstage.symm
  · rw [if_neg hword] at hstage ⊢
    exact Scanner.fits_stay (show 3 < 4 by decide) hstage.symm

/-- In a name and behind it. -/
theorem fits_name (parts : List Part) (operator : Operator) (word : List Char) :
    scanner.Fits resume (.name parts operator word) c
      (Stage.move (.name parts operator word) c.offset c.rest) := by
  refine Scanner.fits_loop (fun first rest hrest hfirst => ?_) fun hstop => ?_
  · simp only [resume, completeName, nameFrom_of_pos hrest hfirst]
  · have hstage : resume (.name parts operator word) c = completeName parts operator word c := rfl
    simp only [completeName, nameFrom, Cursor.span_of_head? hstop, List.append_nil] at hstage
    cases hrest : c.rest with
    | nil =>
      rw [hrest] at hstage
      exact fits_endedMove hstage
    | cons first rest =>
      rw [hrest] at hstage
      simp only at hstage
      rw [nameMove]
      by_cases hends : endsName first = true
      · rw [if_pos hends] at hstage ⊢
        exact fits_endedMove hstage
      · rw [if_neg hends] at hstage ⊢
        exact hstage.symm

/-- Where an equals sign may stand. -/
theorem fits_equals (parts : List Part) (operator : Operator) (word : String) :
    scanner.Fits resume (.equals parts operator word) c
      (Stage.move (.equals parts operator word) c.offset c.rest) := by
  rcases readFallback_cases c with ⟨rest, hrest, hread⟩ | ⟨hnone, hread⟩
  · rw [hrest]
    refine Scanner.fits_after hrest ?_
    simp only [resume, completeNamed, hread, List.nil_append]
  · have hmove : Stage.move (.equals parts operator word) c.offset c.rest =
        .advance 0 (.closing parts ⟨word, operator, none⟩) := by
      cases hrest : c.rest with
      | nil => rfl
      | cons first rest => rw [Stage.move, if_neg (by simpa [hrest] using hnone)]
    rw [hmove]
    refine Scanner.fits_stay (show 5 < 7 by decide) ?_
    simp only [resume, completeNamed, hread]

/-- In a default value and behind it. -/
theorem fits_fallback (parts : List Part) (operator : Operator) (word : String)
    (text : List Char) :
    scanner.Fits resume (.fallback parts operator word text) c
      (Stage.move (.fallback parts operator word text) c.offset c.rest) := by
  refine Scanner.fits_loop (fun first rest hrest hfirst => ?_) fun hstop => ?_
  · have hspan : c.span (· ≠ '}') = _ := Cursor.span_of_pos hrest hfirst
    simp only [resume, hspan, List.append_assoc, List.singleton_append]
  · have hspan : c.span (· ≠ '}') = ([], c) := Cursor.span_of_head? hstop
    refine Scanner.fits_stay (show 6 < 7 by decide) ?_
    simp only [resume, hspan, List.append_nil]

/-- At the closing brace of a variable. -/
theorem fits_closing (parts : List Part) (value : Variable) :
    scanner.Fits resume (.closing parts value) c
      (Stage.move (.closing parts value) c.offset c.rest) := by
  rcases readClosing_cases c with ⟨hrest, hread⟩ | ⟨first, rest, hrest,
    ⟨hclosing, hread⟩ | ⟨hclosing, hread⟩⟩
  · rw [hrest]
    change Except.error _ = resume (.closing parts value) c
    rw [resume, completeClosing, hread]
    rfl
  · rw [hrest, Stage.move, if_pos hclosing]
    refine Scanner.fits_after hrest ?_
    rw [resume, resume, completeClosing, hread]
    rfl
  · rw [hrest, Stage.move, if_neg hclosing]
    change Except.error _ = resume (.closing parts value) c
    rw [resume, completeClosing, hread]
    rfl

end Fits

/-- **Every move of the scanner agrees with the reader**, one stage after the other. -/
theorem follows : scanner.Follows resume 7 where
  fits stage c := by
    cases stage with
    | items parts run => exact fits_items parts run
    | opened parts => exact Scanner.fits_blanks (show 1 < 2 by decide) fun _ => rfl
    | sign parts => exact fits_sign parts
    | name parts operator word => exact fits_name parts operator word
    | named parts operator word =>
      exact Scanner.fits_blanks (show 4 < 5 by decide) fun _ => rfl
    | equals parts operator word => exact fits_equals parts operator word
    | fallback parts operator word text => exact fits_fallback parts operator word text
    | closing parts value => exact fits_closing parts value
  label_le stage := by cases stage <;> simp [scanner, Stage.label]

end Remap.Uri
