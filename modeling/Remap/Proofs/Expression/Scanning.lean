import Remap.Expression.Parser
import Remap.Proofs.Text.Scanner

set_option relaxedAutoImplicit false
set_option autoImplicit false

/-!
# The reader of path expressions as a scanner

The reader is written over cursors, which cannot leave the text. Here it is once more, by its
single moves over bytes: each loop and each look at the next character is a stage. The two agree
stage by stage, so that what holds of every scanner that follows a reader holds of this one.

## Main definitions

* `Remap.Expression.Stage` — the places of the reader, with what it has read so far.
* `Remap.Expression.scanner` — its moves.
* `Remap.Expression.resume` — what the reader makes of the text from a stage on.

## Main results

* `Remap.Expression.identifierFrom_of_pos`, `Remap.Expression.identifierFrom_of_head?` — an
  identifier, one character after the other.
* `Remap.Expression.complete_eq` — how reading goes on behind the root and behind each accessor.
* `Remap.Expression.follows` — every move of the scanner agrees with the reader.
-/

namespace Remap.Expression

open Remap.Text (Cursor Move Scanner isBlank)

/-- The expression with one more step. -/
def extend (e : Expression) (accessor : Accessor) : Expression :=
  ⟨e.root, e.accessors ++ [accessor]⟩

/-! ## Stages and moves -/

/-- The places at which the reader looks at the next character, with what it has read so far. -/
inductive Stage where
  /-- Among the blanks before the root. -/
  | leading
  /-- In the root symbol that starts at the position. -/
  | root (start : Nat) (name : List Char)
  /-- In the member name behind a point. -/
  | point (read : Expression) (name : List Char)
  /-- Among the blanks behind the root or an accessor. -/
  | between (read : Expression)
  /-- Where an accessor or the end of the text is due. -/
  | accessor (read : Expression)
  /-- Among the blanks behind an opening bracket. -/
  | opened (read : Expression)
  /-- Where the content of brackets is due. -/
  | content (read : Expression)
  /-- In an index. -/
  | digits (read : Expression) (word : List Char)
  /-- In a quoted name. -/
  | quoted (read : Expression) (quote : Char) (name : List Char)
  /-- Behind a backslash in a quoted name. -/
  | escaped (read : Expression) (quote : Char) (name : List Char)
  /-- Among the blanks behind the content of brackets. -/
  | closing (read : Expression) (inner : Accessor)
  /-- Where a closing bracket is due. -/
  | bracket (read : Expression) (inner : Accessor)

/-- The place of a stage. -/
def Stage.label : Stage → Nat
  | .leading => 0
  | .root .. => 1
  | .point .. => 2
  | .between _ => 3
  | .accessor _ => 4
  | .opened _ => 5
  | .content _ => 6
  | .digits .. => 7
  | .quoted .. => 8
  | .escaped .. => 9
  | .closing .. => 10
  | .bracket .. => 11

/-- The characters that an identifier goes on with, of which the given ones have been read. -/
def continues (name : List Char) (c : Char) : Bool :=
  if name = [] then isIdentifierStart c else isIdentifierChar c

/-- The move in an identifier, of which the given characters have been read. -/
def identifierMove (again : List Char → Stage)
    (ended : String → Move Stage (Except SyntaxError Expression)) (name : List Char)
    (position : Nat) (rest : List Char) : Move Stage (Except SyntaxError Expression) :=
  Move.loop (continues name) (fun first => again (name ++ [first]))
    (if name = [] then .finish (.error (.expectedIdentifier position))
      else ended (String.ofList name)) rest

/-- The move behind the name of a root. -/
def rootMove (start : Nat) (name : String) : Move Stage (Except SyntaxError Expression) :=
  if name = "rm" then .advance 0 (.between ⟨.rootModel, []⟩)
  else if name = "m" then .advance 0 (.between ⟨.model, []⟩)
  else .finish (.error (.unknownRoot name start))

/-- The move behind the digits of an index. -/
def indexMove (read : Expression) (word : List Char) :
    Move Stage (Except SyntaxError Expression) :=
  match Text.ofDigits? word with
  | some position => .advance 0 (.closing read (.index position))
  | none => .finish (.error (.indexTooLarge (String.ofList word)))

/-- The move in a stage, by the position and the characters ahead. -/
def Stage.move : Stage → Nat → List Char → Move Stage (Except SyntaxError Expression)
  | .leading, position, rest =>
    Move.loop isBlank (fun _ => .leading) (.advance 0 (.root position [])) rest
  | .root start name, position, rest =>
    identifierMove (.root start) (rootMove start) name position rest
  | .point read name, position, rest =>
    identifierMove (.point read)
      (fun name => .advance 0 (.between (extend read (.member name)))) name position rest
  | .between read, _, rest =>
    Move.loop isBlank (fun _ => .between read) (.advance 0 (.accessor read)) rest
  | .accessor read, position, rest =>
    match rest with
    | [] => .finish (.ok read)
    | first :: _ =>
      if first = '.' then .advance first.utf8Size (.point read [])
      else if first = '[' then .advance first.utf8Size (.opened read)
      else .finish (.error (.unexpectedCharacter first position))
  | .opened read, _, rest =>
    Move.loop isBlank (fun _ => .opened read) (.advance 0 (.content read)) rest
  | .content read, position, rest =>
    match rest with
    | [] => .finish (.error .endInBrackets)
    | first :: _ =>
      if first = '\x27' ∨ first = '\"' then .advance first.utf8Size (.quoted read first [])
      else if first.isDigit then .advance 0 (.digits read [])
      else .finish (.error (.unexpectedInBrackets first position))
  | .digits read word, _, rest =>
    Move.loop Char.isDigit (fun first => .digits read (word ++ [first])) (indexMove read word) rest
  | .quoted read quote name, _, rest =>
    match rest with
    | [] => .finish (.error .unterminatedString)
    | first :: _ =>
      if first = '\\' then .advance first.utf8Size (.escaped read quote name)
      else if first = quote then
        .advance first.utf8Size (.closing read (.member (String.ofList name)))
      else .advance first.utf8Size (.quoted read quote (name ++ [first]))
  | .escaped read quote name, position, rest =>
    match rest with
    | [] => .finish (.error (.unexpectedEnd position))
    | first :: _ => .advance first.utf8Size (.quoted read quote (name ++ [first]))
  | .closing read inner, _, rest =>
    Move.loop isBlank (fun _ => .closing read inner) (.advance 0 (.bracket read inner)) rest
  | .bracket read inner, position, rest =>
    match rest with
    | [] => .finish (.error .missingBracket)
    | first :: _ =>
      if first = ']' then .advance first.utf8Size (.between (extend read inner))
      else .finish (.error (.expectedBracket first position))

/-- The reader of path expressions by its moves over bytes. -/
def scanner : Scanner Stage (Except SyntaxError Expression) where
  initial := .leading
  move := Stage.move
  label := Stage.label

/-! ## Reading on from a stage -/

/-- The identifier at a place, of which the given characters have been read. -/
def identifierFrom (name : List Char) (c : Cursor) : Except SyntaxError (String × Cursor) :=
  if name = [] then readIdentifier c
  else .ok (String.ofList (name ++ (c.span isIdentifierChar).1), (c.span isIdentifierChar).2)

/-- An identifier takes in the next character that it goes on with. -/
theorem identifierFrom_of_pos {name rest : List Char} {c : Cursor} {first : Char}
    (hrest : c.rest = first :: rest) (hfirst : continues name first = true) :
    identifierFrom name c = identifierFrom (name ++ [first]) (c.after first rest) := by
  have hne : name ++ [first] ≠ [] := by simp
  rw [identifierFrom, identifierFrom, if_neg hne, List.append_assoc, List.singleton_append]
  by_cases hname : name = []
  · have hstart : isIdentifierStart first = true := by simpa [continues, hname] using hfirst
    have hchar := isIdentifierChar_of_isIdentifierStart hstart
    rw [if_pos hname, readIdentifier_of_pos hrest hstart, Cursor.span_of_pos hrest hchar, hname,
      List.nil_append]
  · have hchar : isIdentifierChar first = true := by simpa [continues, hname] using hfirst
    rw [if_neg hname, Cursor.span_of_pos hrest hchar]

/-- An identifier ends before a character that it does not go on with. -/
theorem identifierFrom_of_head? {name : List Char} {c : Cursor}
    (hstop : ∀ ch ∈ c.rest.head?, continues name ch = false) :
    identifierFrom name c =
      if name = [] then .error (.expectedIdentifier c.offset) else .ok (String.ofList name, c) := by
  rw [identifierFrom]
  by_cases hname : name = []
  · have hstart : ∀ ch ∈ c.rest.head?, isIdentifierStart ch = false := by
      simpa [continues, hname] using hstop
    rw [if_pos hname, if_pos hname, readIdentifier_of_head? hstart]
  · have hchar : ∀ ch ∈ c.rest.head?, isIdentifierChar ch = false := by
      simpa [continues, hname] using hstop
    rw [if_neg hname, if_neg hname, Cursor.span_of_head? hchar, List.append_nil]

/-- The expression whose root and first accessors have been read. -/
def complete (read : Expression) (c : Cursor) : Except SyntaxError Expression :=
  (readAccessors c).map fun accessors => ⟨read.root, read.accessors ++ accessors⟩

/-- The expression from the name of its root on. -/
def completeRoot (start : Nat) (name : String) (c : Cursor) : Except SyntaxError Expression :=
  if name = "rm" then complete ⟨.rootModel, []⟩ c
  else if name = "m" then complete ⟨.model, []⟩ c
  else .error (.unknownRoot name start)

/-- The expression from the content of brackets on. -/
def completeBracket (read : Expression) (inner : Accessor) (c : Cursor) :
    Except SyntaxError Expression :=
  (readClosing c).bind (complete (extend read inner))

/-- The expression from the digits of an index on. -/
def completeIndex (read : Expression) (word : List Char) (c : Cursor) :
    Except SyntaxError Expression :=
  match Text.ofDigits? word with
  | some position => completeBracket read (.index position) c.skipBlanks
  | none => .error (.indexTooLarge (String.ofList word))

/-- The expression from the rest of a quoted name on. -/
def completeQuoted (read : Expression) (quote : Char) (name : List Char) (c : Cursor) :
    Except SyntaxError Expression :=
  (readQuoted quote c.offset c.rest).bind fun (others, next) =>
    completeBracket read (.member (String.ofList (name ++ others))) next.skipBlanks

/-- What the reader makes of the text from a stage on. -/
def resume : Stage → Cursor → Except SyntaxError Expression
  | .leading, c =>
    (readIdentifier c.skipBlanks).bind fun (name, next) =>
      completeRoot c.skipBlanks.offset name next
  | .root start name, c =>
    (identifierFrom name c).bind fun (name, next) => completeRoot start name next
  | .point read name, c =>
    (identifierFrom name c).bind fun (name, next) => complete (extend read (.member name)) next
  | .between read, c => complete read c
  | .accessor read, c =>
    (readAccessor? c).bind fun
      | none => .ok read
      | some (accessor, next) => complete (extend read accessor) next
  | .opened read, c =>
    (readContent c.skipBlanks).bind fun (inner, next) =>
      completeBracket read inner next.skipBlanks
  | .content read, c =>
    (readContent c).bind fun (inner, next) => completeBracket read inner next.skipBlanks
  | .digits read word, c =>
    completeIndex read (word ++ (c.span Char.isDigit).1) (c.span Char.isDigit).2
  | .quoted read quote name, c => completeQuoted read quote name c
  | .escaped read quote name, c =>
    match c.rest with
    | [] => .error (.unexpectedEnd c.offset)
    | first :: rest => completeQuoted read quote (name ++ [first]) (c.after first rest)
  | .closing read inner, c => completeBracket read inner c.skipBlanks
  | .bracket read inner, c => completeBracket read inner c

/-- The whole source is what the reader makes of it from the first stage on. -/
theorem resume_leading (source : String) :
    resume .leading (Cursor.start source.toList) = parse source := by
  rcases readRoot_cases (Cursor.start source.toList).skipBlanks with ⟨error, hname, hroot⟩ |
    ⟨root, next, hname, hroot⟩ | ⟨name, next, hname, hrm, hm, hroot⟩
  · simp only [resume, parse, hname, hroot]
    rfl
  · simp only [resume, parse, hname, hroot]
    cases root <;> rfl
  · simp only [resume, parse, hname, hroot, Except.bind, completeRoot, if_neg hrm, if_neg hm]

/-- **How reading goes on behind the root and behind each accessor**: over blanks, to the next
accessor or to the end of the text. -/
theorem complete_eq (read : Expression) (c : Cursor) :
    complete read c = resume (.accessor read) c.skipBlanks := by
  simp only [resume, complete, readAccessors_eq c]
  cases readAccessor? c.skipBlanks with
  | error error => rfl
  | ok result =>
    cases result with
    | none => simp [Except.map, Except.bind]
    | some result =>
      simp only [Except.bind, extend]
      cases readAccessors result.2 with
      | error error => rfl
      | ok accessors => simp [Except.map]

/-- A character that belongs to a quoted name is read before the others. -/
theorem completeQuoted_cons (read : Expression) (quote : Char) (name : List Char) (c : Cursor)
    (first : Char) :
    ((readQuoted quote c.offset c.rest).map fun r => (first :: r.1, r.2)).bind (fun r =>
        completeBracket read (.member (String.ofList (name ++ r.1))) r.2.skipBlanks) =
      completeQuoted read quote (name ++ [first]) c := by
  unfold completeQuoted
  cases readQuoted quote c.offset c.rest <;> simp [Except.map, Except.bind]

/-- A backslash in a quoted name takes the next character with it. -/
theorem completeQuoted_backslash {read : Expression} {quote : Char} {name rest : List Char}
    {c : Cursor} (hrest : c.rest = '\\' :: rest) :
    completeQuoted read quote name c =
      resume (.escaped read quote name) (c.after '\\' rest) := by
  cases rest with
  | nil =>
    simp only [completeQuoted, hrest, readQuoted, resume, Cursor.after]
    rfl
  | cons second others =>
    rw [completeQuoted, hrest, readQuoted]
    exact completeQuoted_cons read quote name ((c.after '\\' _).after second others) second

/-- Any other character ends a quoted name or belongs to it. -/
theorem completeQuoted_of_ne (read : Expression) (quote : Char) (name : List Char) {c : Cursor}
    {first : Char} {rest : List Char} (hrest : c.rest = first :: rest) (hback : first ≠ '\\') :
    completeQuoted read quote name c =
      if first = quote then
        completeBracket read (.member (String.ofList name)) (c.after first rest).skipBlanks
      else completeQuoted read quote (name ++ [first]) (c.after first rest) := by
  -- The two equations of the reader for a backslash do not apply.
  rw [completeQuoted, hrest, readQuoted.eq_4 _ _ _ _ (by simp [hback]) (by simp [hback])]
  by_cases hquote : first = quote
  · rw [if_pos hquote, if_pos hquote]
    simp [Except.bind, Cursor.after]
  · rw [if_neg hquote, if_neg hquote]
    exact completeQuoted_cons read quote name (c.after first rest) first

/-! ## The moves agree with the reader -/

section Fits

variable {c : Cursor}

/-- The move in an identifier agrees with the reader if it does inside and behind it. -/
theorem fits_identifierMove {again : List Char → Stage} {name : List Char}
    {ended : String → Move Stage (Except SyntaxError Expression)}
    (goOn : String → Cursor → Except SyntaxError Expression)
    (hagain : ∀ name d, resume (again name) d = (identifierFrom name d).bind fun r => goOn r.1 r.2)
    (hended : ∀ word, resume (again name) c = goOn word c →
      scanner.Fits resume (again name) c (ended word)) :
    scanner.Fits resume (again name) c (identifierMove again ended name c.offset c.rest) := by
  refine Scanner.fits_loop (fun first rest hrest hfirst => ?_) fun hstop => ?_
  · rw [hagain, hagain, identifierFrom_of_pos hrest hfirst]
  · have hresume := hagain name c
    rw [identifierFrom_of_head? hstop] at hresume
    by_cases hname : name = []
    · rw [if_pos hname] at hresume ⊢
      exact hresume.symm
    · rw [if_neg hname] at hresume ⊢
      exact hended _ hresume

/-- In the member name behind a point, and behind it. -/
theorem fits_point (read : Expression) (name : List Char) :
    scanner.Fits resume (.point read name) c (Stage.move (.point read name) c.offset c.rest) := by
  rw [Stage.move]
  refine fits_identifierMove (fun name => complete (extend read (.member name)))
    (fun _ _ => rfl) fun _ hstage => ?_
  exact Scanner.fits_stay (show 2 < 3 by decide) hstage.symm

/-- Behind the name of a root. -/
theorem fits_rootMove {start : Nat} {name : List Char} {word : String}
    (hstage : resume (.root start name) c = completeRoot start word c) :
    scanner.Fits resume (.root start name) c (rootMove start word) := by
  rw [completeRoot] at hstage
  rw [rootMove]
  by_cases hrm : word = "rm"
  · rw [if_pos hrm] at hstage ⊢
    exact Scanner.fits_stay (show 1 < 3 by decide) hstage.symm
  · by_cases hm : word = "m"
    · rw [if_neg hrm, if_pos hm] at hstage ⊢
      exact Scanner.fits_stay (show 1 < 3 by decide) hstage.symm
    · rw [if_neg hrm, if_neg hm] at hstage ⊢
      exact hstage.symm

/-- In a root symbol and behind it. -/
theorem fits_root (start : Nat) (name : List Char) :
    scanner.Fits resume (.root start name) c (Stage.move (.root start name) c.offset c.rest) := by
  rw [Stage.move]
  exact fits_identifierMove (completeRoot start) (fun _ _ => rfl) fun _ hstage =>
    fits_rootMove hstage

/-- Behind the root or an accessor, at the next accessor or at the end.

**Proof sketch.** By what the reader can do there (`readAccessor?_cases`). The stages behind a point
and behind an opening bracket read on as the reader does. -/
theorem fits_accessor (read : Expression) :
    scanner.Fits resume (.accessor read) c (Stage.move (.accessor read) c.offset c.rest) := by
  rcases readAccessor?_cases c with ⟨hrest, hread⟩ | ⟨first, rest, hrest,
    ⟨hpoint, hread⟩ | ⟨hbracket, hread⟩ | ⟨hpoint, hbracket, hread⟩⟩
  · rw [hrest]
    change Except.ok read = resume (.accessor read) c
    rw [resume, hread]
    rfl
  · rw [hrest, Stage.move, if_pos hpoint]
    refine Scanner.fits_after hrest ?_
    simp only [resume, hread, identifierFrom, if_true]
    cases readIdentifier (c.after first rest) <;> rfl
  · have hpoint : first ≠ '.' := by rw [hbracket]; decide
    rw [hrest, Stage.move, if_neg hpoint, if_pos hbracket]
    refine Scanner.fits_after hrest ?_
    simp only [resume, hread, readBracketed]
    cases readContent (c.after first rest).skipBlanks with
    | error error => rfl
    | ok result =>
      obtain ⟨content, next⟩ := result
      simp only [Except.bind, completeBracket]
      cases readClosing next.skipBlanks <;> rfl
  · rw [hrest, Stage.move, if_neg hpoint, if_neg hbracket]
    change Except.error _ = resume (.accessor read) c
    rw [resume, hread]
    rfl

/-- At the content of brackets.

**Proof sketch.** By what the reader can do there (`readContent_cases`). The stages in a quoted name
and in an index read on as the reader does. -/
theorem fits_content (read : Expression) :
    scanner.Fits resume (.content read) c (Stage.move (.content read) c.offset c.rest) := by
  rcases readContent_cases c with ⟨hrest, hread⟩ | ⟨first, rest, hrest,
    ⟨hquote, hread⟩ | ⟨hquote, hdigit, hread⟩ | ⟨hquote, hdigit, hread⟩⟩
  · rw [hrest]
    change Except.error _ = resume (.content read) c
    rw [resume, hread]
    rfl
  · rw [hrest, Stage.move, if_pos hquote]
    refine Scanner.fits_after hrest ?_
    simp only [resume, completeQuoted, hread, Cursor.after]
    cases readQuoted first (c.offset + first.utf8Size) rest <;> rfl
  · rw [hrest, Stage.move, if_neg hquote, if_pos hdigit]
    refine Scanner.fits_stay (show 6 < 7 by decide) ?_
    simp only [resume, completeIndex, hread, List.nil_append]
    cases Text.ofDigits? (c.span Char.isDigit).1 <;> rfl
  · rw [hrest, Stage.move, if_neg hquote, if_neg (by simp [hdigit])]
    change Except.error _ = resume (.content read) c
    rw [resume, hread]
    rfl

/-- In an index and behind it. -/
theorem fits_digits (read : Expression) (word : List Char) :
    scanner.Fits resume (.digits read word) c
      (Stage.move (.digits read word) c.offset c.rest) := by
  refine Scanner.fits_loop (fun first rest hrest hfirst => ?_) fun hstop => ?_
  · simp only [resume, Cursor.span_of_pos hrest hfirst, List.append_assoc, List.singleton_append]
  · have hresume : resume (.digits read word) c = completeIndex read word c := by
      simp only [resume, Cursor.span_of_head? hstop, List.append_nil]
    rw [completeIndex] at hresume
    rw [indexMove]
    cases hposition : Text.ofDigits? word with
    | some position =>
      rw [hposition] at hresume
      exact Scanner.fits_stay (show 7 < 10 by decide) hresume.symm
    | none =>
      rw [hposition] at hresume
      exact hresume.symm

/-- In a quoted name. -/
theorem fits_quoted (read : Expression) (quote : Char) (name : List Char) :
    scanner.Fits resume (.quoted read quote name) c
      (Stage.move (.quoted read quote name) c.offset c.rest) := by
  cases hrest : c.rest with
  | nil =>
    change Except.error _ = resume (.quoted read quote name) c
    simp [resume, completeQuoted, readQuoted, hrest, Except.bind]
  | cons first rest =>
    by_cases hback : first = '\\'
    · rw [Stage.move, if_pos hback]
      subst hback
      exact Scanner.fits_after hrest (completeQuoted_backslash hrest).symm
    · have hgoesOn := completeQuoted_of_ne read quote name hrest hback
      by_cases hquote : first = quote
      · rw [if_pos hquote] at hgoesOn
        rw [Stage.move, if_neg hback, if_pos hquote]
        exact Scanner.fits_after hrest hgoesOn.symm
      · rw [if_neg hquote] at hgoesOn
        rw [Stage.move, if_neg hback, if_neg hquote]
        exact Scanner.fits_after hrest hgoesOn.symm

/-- Behind a backslash. -/
theorem fits_escaped (read : Expression) (quote : Char) (name : List Char) :
    scanner.Fits resume (.escaped read quote name) c
      (Stage.move (.escaped read quote name) c.offset c.rest) := by
  cases hrest : c.rest with
  | nil =>
    change Except.error _ = resume (.escaped read quote name) c
    simp only [resume, hrest]
  | cons first rest =>
    refine Scanner.fits_after hrest ?_
    simp only [resume, hrest]

/-- At the closing bracket. -/
theorem fits_bracket (read : Expression) (inner : Accessor) :
    scanner.Fits resume (.bracket read inner) c
      (Stage.move (.bracket read inner) c.offset c.rest) := by
  rcases readClosing_cases c with ⟨hrest, hread⟩ | ⟨first, rest, hrest,
    ⟨hclosing, hread⟩ | ⟨hclosing, hread⟩⟩
  · rw [hrest]
    change Except.error _ = resume (.bracket read inner) c
    rw [resume, completeBracket, hread]
    rfl
  · rw [hrest, Stage.move, if_pos hclosing]
    refine Scanner.fits_after hrest ?_
    rw [resume, resume, completeBracket, hread]
    rfl
  · rw [hrest, Stage.move, if_neg hclosing]
    change Except.error _ = resume (.bracket read inner) c
    rw [resume, completeBracket, hread]
    rfl

end Fits

/-- **Every move of the scanner agrees with the reader**, one stage after the other. -/
theorem follows : scanner.Follows resume 11 where
  fits stage c := by
    cases stage with
    | leading =>
      refine Scanner.fits_loop (fun first rest hrest hfirst => ?_) fun hstop => ?_
      · simp only [resume, Cursor.skipBlanks_of_pos hrest hfirst]
      · refine Scanner.fits_stay (show 0 < 1 by decide) ?_
        simp only [resume, Cursor.skipBlanks_of_head? hstop, identifierFrom, if_true]
    | root start name => exact fits_root start name
    | point read name => exact fits_point read name
    | between read => exact Scanner.fits_blanks (show 3 < 4 by decide) (complete_eq read)
    | accessor read => exact fits_accessor read
    | opened read => exact Scanner.fits_blanks (show 5 < 6 by decide) fun _ => rfl
    | content read => exact fits_content read
    | digits read word => exact fits_digits read word
    | quoted read quote name => exact fits_quoted read quote name
    | escaped read quote name => exact fits_escaped read quote name
    | closing read inner => exact Scanner.fits_blanks (show 10 < 11 by decide) fun _ => rfl
    | bracket read inner => exact fits_bracket read inner
  label_le stage := by cases stage <;> simp [scanner, Stage.label]

end Remap.Expression
