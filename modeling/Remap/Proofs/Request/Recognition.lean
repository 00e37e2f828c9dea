import Remap.Proofs.Request.Grammar
import Remap.Proofs.Request.Translation

set_option relaxedAutoImplicit false
set_option autoImplicit false

/-!
# Recognition of placeholders

A token is one of three things. It is a text that is not in braces, or there is something in braces
that is a path, or something that is none. The paths form a regular language, which is said here
character by character: an optional mark `$.` and segments with single dots between them, each of
them a letter followed by letters, digits, hyphens and underscores. The reader of tokens tells the
three cases apart exactly, and so does the compiler of the leaves of a spec.

## Main definitions

* `Remap.Request.SegmentText`, `Remap.Request.BodyText`, `Remap.Request.PathText` — the texts of
  segments, of segments with dots between them, and of paths.
* `Remap.Request.TokenText` — paths in braces.
* `Remap.Request.CutsAtCharacters` — what is left without the first and the last byte.

## Main results

* `Remap.Request.pathText_iff` — the language of paths is that of the placeholders.
* `Remap.Request.Braced.cutsAtCharacters` — the braces of a token can be cut off by bytes.
* `Remap.Request.Placeholder.parse_recognition` — the three cases of a token.
-/

namespace Remap.Request

/-! ## The language of paths -/

/-- A letter of ASCII. -/
def IsLetter (c : Char) : Prop :=
  ('a' ≤ c ∧ c ≤ 'z') ∨ ('A' ≤ c ∧ c ≤ 'Z')

/-- A letter or a digit of ASCII, a hyphen or an underscore. -/
def IsSegmentChar (c : Char) : Prop :=
  IsLetter c ∨ ('0' ≤ c ∧ c ≤ '9') ∨ c = '-' ∨ c = '_'

/-- The texts of segments. -/
inductive SegmentText : List Char → Prop
  | mk {first : Char} {rest : List Char} (hfirst : IsLetter first)
      (hrest : ∀ c ∈ rest, IsSegmentChar c) : SegmentText (first :: rest)

/-- One or more segments with single dots between them. -/
inductive BodyText : List Char → Prop
  | last {segment : List Char} (h : SegmentText segment) : BodyText segment
  | cons {segment rest : List Char} (h : SegmentText segment) (hrest : BodyText rest) :
      BodyText (segment ++ '.' :: rest)

/-- `PathText marked s` says that `s` is the text of a path, with the mark or without it. -/
inductive PathText : Bool → List Char → Prop
  | marked {body : List Char} (h : BodyText body) : PathText true ('$' :: '.' :: body)
  | plain {body : List Char} (h : BodyText body) : PathText false body

/-- `TokenText marked inner token` says that the token is the path `inner` in braces. -/
def TokenText (marked : Bool) (inner : List Char) (token : String) : Prop :=
  token.toList = '{' :: (inner ++ ['}']) ∧ PathText marked inner

/-- The letters of ASCII are those that the reader takes for letters. -/
theorem isLetter_iff {c : Char} : IsLetter c ↔ c.isAlpha = true := by
  have halpha : c.isAlpha =
      (decide ('A' ≤ c ∧ c ≤ 'Z') || (decide ('a' ≤ c) && decide (c ≤ 'z'))) := rfl
  rw [halpha, Bool.or_eq_true, Bool.and_eq_true, decide_eq_true_eq, decide_eq_true_eq,
    decide_eq_true_eq]
  exact Or.comm

/-- The characters of segments are those that the reader takes for them. -/
theorem isSegmentChar_iff {c : Char} :
    IsSegmentChar c ↔ (c.isAlphanum || c = '-' || c = '_') = true := by
  have halnum : c.isAlphanum =
      (c.isAlpha || (decide ('0' ≤ c) && decide (c ≤ '9'))) := rfl
  rw [halnum, IsSegmentChar, isLetter_iff]
  simp only [Bool.or_eq_true, Bool.and_eq_true, decide_eq_true_eq, or_assoc]

/-- The texts of segments are those that the reader takes for segments. -/
theorem segmentText_iff {s : List Char} : SegmentText s ↔ isSegment s = true := by
  constructor
  · rintro ⟨hfirst, hrest⟩
    rw [isSegment, Bool.and_eq_true, List.all_eq_true]
    exact ⟨isLetter_iff.1 hfirst, fun c hc => isSegmentChar_iff.1 (hrest c hc)⟩
  · intro h
    obtain _ | ⟨first, rest⟩ := s
    · simp [isSegment] at h
    · rw [isSegment, Bool.and_eq_true, List.all_eq_true] at h
      exact .mk (isLetter_iff.2 h.1) fun c hc => isSegmentChar_iff.2 (h.2 c hc)

/-- One or more segments with dots between them are a dotted path of such segments.

**Proof sketch.** Each constructor of `BodyText` puts one segment before the dotted path of the
rest, and each segment of a list is read as one constructor: the last one, or one with a dot behind
it. -/
theorem bodyText_iff {s : List Char} :
    BodyText s ↔ ∃ segments : List String, segments ≠ [] ∧
      (∀ segment ∈ segments, isSegment segment.toList = true) ∧
      s = (Text.dotted segments).toList := by
  constructor
  · intro h
    induction h with
    | @last segment h =>
      refine ⟨[String.ofList segment], by simp, ?_, ?_⟩
      · simpa using segmentText_iff.1 h
      · rw [Text.toList_dotted_singleton, String.toList_ofList]
    | @cons segment rest h _ ih =>
      obtain ⟨segments, hne, hall, rfl⟩ := ih
      refine ⟨String.ofList segment :: segments, by simp, ?_, ?_⟩
      · rw [List.forall_mem_cons, String.toList_ofList]
        exact ⟨segmentText_iff.1 h, hall⟩
      · rw [Text.toList_dotted_cons _ hne, String.toList_ofList]
  · rintro ⟨segments, hne, hall, rfl⟩
    induction segments with
    | nil => exact absurd rfl hne
    | cons segment rest ih =>
      obtain ⟨hsegment, hrest⟩ := List.forall_mem_cons.1 hall
      have htext := segmentText_iff.2 hsegment
      by_cases hlast : rest = []
      · rw [hlast, Text.toList_dotted_singleton]
        exact .last htext
      · rw [Text.toList_dotted_cons _ hlast]
        exact .cons htext (ih hlast hrest)

/-- **The language of paths is that of the placeholders.** -/
theorem pathText_iff {marked : Bool} {s : List Char} :
    PathText marked s ↔ ∃ p : Placeholder, p.contextRelative = marked ∧ p.Spells s := by
  constructor
  · intro h
    have hmark : ∃ body, BodyText body ∧ s = (if marked then ['$', '.'] else []) ++ body := by
      cases h with
      | marked h => exact ⟨_, h, rfl⟩
      | plain h => exact ⟨_, h, rfl⟩
    obtain ⟨body, hbody, hs⟩ := hmark
    obtain ⟨segments, hne, hall, rfl⟩ := bodyText_iff.1 hbody
    refine ⟨⟨marked, segments⟩, rfl, ?_, hne, hall⟩
    rw [hs, Placeholder.toList_path]
  · rintro ⟨⟨marked', segments⟩, rfl, heq, hne, hall⟩
    have hbody := bodyText_iff.2 ⟨segments, hne, hall, rfl⟩
    rw [heq, Placeholder.toList_path]
    cases marked' with
    | true => exact .marked hbody
    | false => exact .plain hbody

/-- The characters of a segment. -/
theorem SegmentText.isSegmentChar {s : List Char} (h : SegmentText s) {c : Char} (hc : c ∈ s) :
    IsSegmentChar c := by
  obtain ⟨hfirst, hrest⟩ := h
  rcases List.mem_cons.1 hc with rfl | hc
  · left; exact hfirst
  · exact hrest c hc

/-- Besides the characters of segments there are only the dots between them. -/
theorem BodyText.mem_cases {s : List Char} (h : BodyText s) {c : Char} (hc : c ∈ s) :
    IsSegmentChar c ∨ c = '.' := by
  induction h with
  | last h => left; exact h.isSegmentChar hc
  | cons h _ ih =>
    rcases List.mem_append.1 hc with hc | hc
    · left; exact h.isSegmentChar hc
    · rcases List.mem_cons.1 hc with rfl | hc
      · right; rfl
      · exact ih hc

/-- Segments with dots between them hold no closing brace. -/
theorem BodyText.not_mem {s : List Char} (h : BodyText s) : '}' ∉ s := by
  intro hmem
  rcases h.mem_cases hmem with hchar | hdot
  · exact absurd (isSegmentChar_iff.1 hchar) (by decide)
  · exact absurd hdot (by decide)

/-- A path holds no closing brace. -/
theorem PathText.not_mem {marked : Bool} {s : List Char} (h : PathText marked s) : '}' ∉ s := by
  cases h with
  | marked h => simpa using h.not_mem
  | plain h => exact h.not_mem

/-- A path is not empty. -/
theorem PathText.ne_nil {marked : Bool} {s : List Char} (h : PathText marked s) : s ≠ [] := by
  rcases h with ⟨h⟩ | ⟨⟨-, -⟩ | ⟨-, -⟩⟩ <;> simp

/-- A path in braces is a text in braces. -/
theorem TokenText.braced {marked : Bool} {inner : List Char} {token : String}
    (h : TokenText marked inner token) : Braced token.toList inner :=
  ⟨h.1, h.2.ne_nil, h.2.not_mem⟩

/-! ## Cutting off the braces -/

/-- Without its first and its last byte the text is `inner`; both cuts are between characters, and
the first of them does not come behind the last. -/
structure CutsAtCharacters (s : String) (inner : List Char) : Prop where
  start : (⟨1⟩ : String.Pos.Raw).IsValid s
  stop : (⟨s.utf8ByteSize - 1⟩ : String.Pos.Raw).IsValid s
  start_le_stop : 1 ≤ s.utf8ByteSize - 1
  extract_eq : s.toByteArray.extract 1 (s.utf8ByteSize - 1) = (String.ofList inner).toByteArray

/-- **The braces of a text in braces can be cut off by bytes**, whatever characters are between
them.

**Proof sketch.** The text is an opening brace, the inner text and a closing brace joined, and each
brace takes one byte. So both cuts are ends of a joined piece, which makes them valid positions, and
the bytes between them are those of the piece in the middle. -/
theorem Braced.cutsAtCharacters {s : String} {inner : List Char} (h : Braced s.toList inner) :
    CutsAtCharacters s inner := by
  obtain ⟨hs, hne, -⟩ := h
  have hjoined : s = String.singleton '{' ++ String.ofList inner ++ String.singleton '}' := by
    rw [← String.toList_inj, hs]
    simp
  have hsize : s.utf8ByteSize = 1 + (String.ofList inner).utf8ByteSize + 1 := by
    rw [hjoined, String.utf8ByteSize_append, String.utf8ByteSize_append]
    rfl
  refine ⟨?_, ?_, ?_, ?_⟩
  · rw [String.Pos.Raw.isValid_iff_exists_append]
    exact ⟨String.singleton '{', String.ofList inner ++ String.singleton '}',
      by rw [hjoined, String.append_assoc], rfl⟩
  · rw [String.Pos.Raw.isValid_iff_exists_append]
    refine ⟨String.singleton '{' ++ String.ofList inner, String.singleton '}', hjoined, ?_⟩
    rw [String.Pos.Raw.ext_iff, String.byteIdx_rawEndPos, String.utf8ByteSize_append, hsize]
    show 1 + (String.ofList inner).utf8ByteSize + 1 - 1 = 1 + (String.ofList inner).utf8ByteSize
    omega
  · have hpos : (String.ofList inner).utf8ByteSize ≠ 0 := by
      rw [Ne, String.utf8ByteSize_eq_zero_iff]
      exact fun hempty => hne (by simpa using congrArg String.toList hempty)
    omega
  · -- An opening brace is one byte, so what is behind it starts at the first cut.
    have hopening : 1 = (String.singleton '{').toByteArray.size := rfl
    have hbehind := ByteArray.extract_append_size_add' (i := 0)
      (j := (String.ofList inner).utf8ByteSize)
      (b := (String.ofList inner).toByteArray ++ (String.singleton '}').toByteArray) hopening
    rw [hsize, Nat.add_sub_cancel, hjoined, String.toByteArray_append, String.toByteArray_append,
      ByteArray.append_assoc, hbehind]
    exact ByteArray.extract_append_eq_left rfl

/-! ## The three cases -/

namespace Placeholder

/-- The reader of tokens accepts exactly the paths in braces. -/
theorem exists_parse_eq_ok_iff {s : String} :
    (∃ p, parse s = .ok p) ↔ ∃ marked inner, TokenText marked inner s := by
  constructor
  · rintro ⟨p, hp⟩
    obtain ⟨inner, hbraced, hspells⟩ := parse_eq_ok_iff.1 hp
    exact ⟨p.contextRelative, inner, hbraced.1, pathText_iff.2 ⟨p, rfl, hspells⟩⟩
  · rintro ⟨marked, inner, htoken⟩
    obtain ⟨p, -, hspells⟩ := pathText_iff.1 htoken.2
    exact ⟨p, parse_eq_ok_iff.2 ⟨inner, htoken.braced, hspells⟩⟩

/-- What is read from a path in braces is the path, and whether it has the mark. -/
theorem eq_of_parse_eq_ok {s : String} {p : Placeholder} (hp : parse s = .ok p) {marked : Bool}
    {inner : List Char} (h : TokenText marked inner s) :
    p.path = String.ofList inner ∧ p.contextRelative = marked := by
  obtain ⟨inner', hbraced, hspells⟩ := parse_eq_ok_iff.1 hp
  obtain rfl := hbraced.unique h.braced
  obtain ⟨p', hmark, hspells'⟩ := pathText_iff.1 h.2
  obtain rfl := hspells.unique hspells'
  exact ⟨by rw [hspells.eq_path, String.ofList_toList], hmark⟩

/-- A text that is not in braces is named by the error as a whole, and only such a text is. -/
theorem parse_eq_error_self_iff {s : String} :
    parse s = .error (.invalidPlaceholder s) ↔ ¬∃ inner, Braced s.toList inner := by
  constructor
  · rintro h ⟨inner, hbraced⟩
    obtain ⟨-, herror⟩ := (parse_eq_error_iff hbraced).1 h
    -- What is between the braces is shorter than the token.
    have hlength := congrArg (fun e => match e with
      | TemplateError.invalidPlaceholder text => text.toList.length
      | _ => 0) herror
    simp only [String.toList_ofList, hbraced.1, List.length_cons, List.length_append] at hlength
    omega
  · intro h
    have hnone : braced? s.toList = none := by
      rw [Option.eq_none_iff_forall_ne_some]
      exact fun inner hinner => h ⟨inner, braced?_eq_some_iff.1 hinner⟩
    rw [parse, hnone]

/-- What is in braces and is no path is named by the error. -/
theorem parse_eq_error_of_braced {s : String} {inner : List Char} (h : Braced s.toList inner)
    (hpath : ¬∃ marked inner, TokenText marked inner s) :
    parse s = .error (.invalidPlaceholder (String.ofList inner)) := by
  rw [parse_eq_error_iff h]
  refine ⟨fun p hp => hpath ⟨p.contextRelative, inner, h.1, ?_⟩, rfl⟩
  exact pathText_iff.2 ⟨p, rfl, hp⟩

end Placeholder

section Leaves

variable {compiler : Compiler} {spec : Json} {part text : String} {path : List String}
  {target : Target} (h : Target.ofSegments (part :: path) spec = .ok target)

include h

/-- A text that is not in braces is compiled to itself. -/
theorem Leaf.compile_of_not_braced (hbraced : ¬∃ inner, Braced text.toList inner) :
    Leaf.compile ⟨path, .string text⟩ compiler spec part =
      .ok ⟨target, .literal (.string text)⟩ := by
  have hliteral : isPlaceholder text = false := by
    rw [Bool.eq_false_iff]
    exact fun hplaceholder => hbraced (isPlaceholder_iff.1 hplaceholder)
  simp [Leaf.compile, h, Leaf.content, Node.ofJson, hliteral, Except.map]

/-- A text in braces is compiled as a token. -/
theorem Leaf.compile_of_braced {inner : List Char} (hbraced : Braced text.toList inner) :
    Leaf.compile ⟨path, .string text⟩ compiler spec part =
      (compileToken compiler part text).map (Assignment.mk target) := by
  have hplaceholder := isPlaceholder_iff.2 ⟨inner, hbraced⟩
  simp only [Leaf.compile, h, Leaf.content, Node.ofJson, if_pos hplaceholder]

/-- A placeholder is compiled to what the compiler makes of its source. -/
theorem Leaf.compile_of_parse {p : Placeholder} (hp : Placeholder.parse text = .ok p) :
    Leaf.compile ⟨path, .string text⟩ compiler spec part =
      match compiler (p.expression part).source with
      | .ok evaluator => .ok ⟨target, .expression (p.expression part).source evaluator⟩
      | .error message => .error (.invalidExpression (p.expression part).source message) := by
  obtain ⟨inner, hbraced, -⟩ := Placeholder.parse_eq_ok_iff.1 hp
  simp only [Leaf.compile_of_braced h hbraced, compileToken, hp, Placeholder.compile]
  cases compiler (p.expression part).source <;> rfl

end Leaves

namespace Placeholder

/-- **Recognition of placeholders is exact.** Take any text.

* The reader of tokens accepts it exactly where it is a path in braces. What is read has the text
  between the braces as its path, and starts at the context exactly where the path has the mark.
* The reader fails with the whole text exactly where it is not in braces, and otherwise with the
  text between the braces. Cutting off the braces by bytes cuts between characters, and leaves that
  text.
* A leaf of a spec that holds a text without braces around it is compiled to the text itself, and
  one that holds a text in braces that is no path is refused. One that holds a placeholder is
  compiled to its expression, with the evaluator that the compiler gives for the source, and it is
  refused with the message of the compiler where the compiler refuses the source. The compiler of
  path expressions accepts the source of every placeholder, with the evaluator of its expression.

**Proof sketch.** The language of paths is that of the placeholders (`pathText_iff`), by induction
on the segments; what the readers of braces, of paths and of tokens accept is known
(`braced?_eq_some_iff`, `ofPath?_eq_some_iff`, `parse_eq_ok_iff`). -/
theorem parse_recognition (s : String) :
    ((∃ p, parse s = .ok p) ↔ ∃ marked inner, TokenText marked inner s) ∧
    (∀ p marked inner, parse s = .ok p → TokenText marked inner s →
      p.path = String.ofList inner ∧ p.contextRelative = marked) ∧
    (parse s = .error (.invalidPlaceholder s) ↔ ¬∃ inner, Braced s.toList inner) ∧
    (∀ inner, Braced s.toList inner →
      CutsAtCharacters s inner ∧
      ((¬∃ marked inner, TokenText marked inner s) →
        parse s = .error (.invalidPlaceholder (String.ofList inner)))) ∧
    ∀ compiler spec part path target, Target.ofSegments (part :: path) spec = .ok target →
      ((¬∃ inner, Braced s.toList inner) →
        Leaf.compile ⟨path, .string s⟩ compiler spec part =
          .ok ⟨target, .literal (.string s)⟩) ∧
      (∀ p, parse s = .ok p →
        (∀ evaluator, compiler (p.expression part).source = .ok evaluator →
          Leaf.compile ⟨path, .string s⟩ compiler spec part =
            .ok ⟨target, .expression (p.expression part).source evaluator⟩) ∧
        (∀ message, compiler (p.expression part).source = .error message →
          Leaf.compile ⟨path, .string s⟩ compiler spec part =
            .error (.invalidExpression (p.expression part).source message)) ∧
        Leaf.compile ⟨path, .string s⟩ Expression.compiler spec part =
          .ok ⟨target, .expression (p.expression part).source (p.expression part).evaluator⟩) ∧
      (∀ inner, Braced s.toList inner → (¬∃ marked inner, TokenText marked inner s) →
        Leaf.compile ⟨path, .string s⟩ compiler spec part =
          .error (.invalidPlaceholder (String.ofList inner))) := by
  refine ⟨exists_parse_eq_ok_iff, fun p marked inner hp htoken => eq_of_parse_eq_ok hp htoken,
    parse_eq_error_self_iff, fun inner hbraced =>
      ⟨hbraced.cutsAtCharacters, parse_eq_error_of_braced hbraced⟩, ?_⟩
  intro compiler spec part path target htarget
  refine ⟨Leaf.compile_of_not_braced htarget,
    fun p hp => ⟨fun evaluator hevaluator => ?_, fun message hmessage => ?_, ?_⟩,
    fun inner hbraced hpath => ?_⟩
  · rw [Leaf.compile_of_parse htarget hp, hevaluator]
  · rw [Leaf.compile_of_parse htarget hp, hmessage]
  · rw [Leaf.compile_of_parse htarget hp, Expression.compiler_source]
  · rw [Leaf.compile_of_braced htarget hbraced, compileToken,
      parse_eq_error_of_braced hbraced hpath]
    rfl

/-- A text in braces that is no path because of a letter outside ASCII, as a leaf of a spec. -/
theorem parse_recognition_outside_ascii :
    let token := "\x7ba.é\x7d"
    let spec := Json.object [("body", .string token)]
    CutsAtCharacters token ['a', '.', 'é'] ∧
      parse token = .error (.invalidPlaceholder "a.é") ∧
      Leaf.compile ⟨[], .string token⟩ Expression.compiler spec "body" =
        .error (.invalidPlaceholder "a.é") := by
  intro token spec
  have hbraced : Braced token.toList ['a', '.', 'é'] := ⟨by decide, by decide, by decide⟩
  have hpath : ¬∃ marked inner, TokenText marked inner token := by
    rintro ⟨marked, inner, htoken⟩
    obtain rfl := htoken.braced.unique hbraced
    obtain ⟨-, -⟩ | ⟨hbody⟩ := htoken.2
    rcases hbody.mem_cases (by simp : 'é' ∈ ['a', '.', 'é']) with hchar | hdot
    · exact absurd (isSegmentChar_iff.1 hchar) (by decide)
    · exact absurd hdot (by decide)
  obtain ⟨-, -, -, htext, hleaf⟩ := parse_recognition token
  obtain ⟨hcut, herror⟩ := htext _ hbraced
  have htarget : Target.ofSegments ["body"] spec = .ok ⟨"body", [⟨.field "body", .object⟩]⟩ := rfl
  exact ⟨hcut, herror hpath, (hleaf _ _ _ _ _ htarget).2.2 _ hbraced hpath⟩

end Placeholder

end Remap.Request
