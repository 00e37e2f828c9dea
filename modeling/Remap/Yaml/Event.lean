import Remap.Yaml.Layout

set_option relaxedAutoImplicit false
set_option autoImplicit false

/-!
# Events of a YAML document

The tokens of a document are read as a tree of nodes, which is given by its events in document
order: scalars, aliases, and the starts and ends of collections.

## Main definitions

* `Remap.Yaml.Event` — an event.
* `Remap.Yaml.eventsOfTokens?` — the events of the only document of a token sequence.
-/

namespace Remap.Yaml

/-- An anchor and a tag, either of which may be missing. -/
structure Properties where
  anchor : Option String
  tag : Option Tag
  deriving DecidableEq, Repr

/-- An event of a document. -/
inductive Event where
  | alias (name : String)
  | scalar (properties : Properties) (plain : Bool) (text : String)
  | sequenceStart (properties : Properties)
  | sequenceEnd
  | mappingStart (properties : Properties)
  | mappingEnd
  deriving DecidableEq, Repr

/-- What is read from a token sequence: events, and the tokens that are left. -/
abbrev Parsed := List Event × List Token

namespace Properties

/-- No anchor and no tag. -/
def none : Properties :=
  ⟨Option.none, Option.none⟩

/-- Whether there is an anchor or a tag. -/
def isPresent (p : Properties) : Bool :=
  p.anchor.isSome || p.tag.isSome

end Properties

/-- What the handles of tags stand for. -/
abbrev Handles := List (String × Tag)

/-- The handles known in every document. A directive may define them anew. -/
def defaultHandles : Handles :=
  [("!", Tag.mark), ("!!", Tag.coreStart)]

/-- A tag in full; `none` if its handle is unknown. -/
def fullTag? (handles : Handles) (handle : String) (suffix : Tag) : Option Tag :=
  if handle = "" then some suffix else (handles.lookup handle).map (· ++ suffix)

/-- The properties at the start of a token sequence, in either order. -/
def readProperties? (handles : Handles) (tokens : List Token) :
    Option (Properties × List Token) :=
  match tokens with
  | .anchor name :: .tag handle suffix :: rest
  | .tag handle suffix :: .anchor name :: rest =>
    (fullTag? handles handle suffix).map fun tag => (⟨some name, some tag⟩, rest)
  | .anchor name :: rest => some (⟨some name, none⟩, rest)
  | .tag handle suffix :: rest =>
    (fullTag? handles handle suffix).map fun tag => (⟨none, some tag⟩, rest)
  | rest => some (Properties.none, rest)

/-- The scalar that stands where nothing is written. -/
def emptyScalar : Event :=
  .scalar Properties.none true ""

/-- Where a node stands: whether block collections may start there, and whether a sequence may start
there that is not indented further than the mapping around it. -/
structure Place where
  block : Bool
  indentless : Bool

/-- Inside block collections. -/
def Place.inBlock : Place :=
  ⟨true, false⟩

/-- The keys and values of block mappings. -/
def Place.inMapping : Place :=
  ⟨true, true⟩

/-- Inside brackets. -/
def Place.inBrackets : Place :=
  ⟨false, false⟩

/-- Reads events before those of a continuation. -/
def Parsed.before (event : Event) (parsed : Option Parsed) : Option Parsed :=
  parsed.map fun (events, rest) => (event :: events, rest)

/-- Reads one after the other. -/
def Parsed.andThen (first : Option Parsed) (next : List Token → Option Parsed) : Option Parsed :=
  match first with
  | none => none
  | some (events, rest) => (next rest).map fun (further, rest) => (events ++ further, rest)

open Parsed (before andThen)

mutual

/-- A node. The fuel bounds the number of nested and successive readings. -/
def readNode? (handles : Handles) (fuel : Nat) (place : Place) (tokens : List Token) :
    Option Parsed :=
  match fuel with
  | 0 => none
  | fuel + 1 =>
    match tokens with
    | .alias name :: rest => some ([.alias name], rest)
    | _ => do
      let (properties, tokens) ← readProperties? handles tokens
      match tokens with
      | .scalar plain text :: rest => some ([.scalar properties plain text], rest)
      | .flowSequenceStart :: rest =>
        before (.sequenceStart properties) (readFlowSequence? handles fuel true rest)
      | .flowMappingStart :: rest =>
        before (.mappingStart properties) (readFlowMapping? handles fuel true rest)
      | .blockEntry :: _ =>
        if place.indentless then
          before (.sequenceStart properties) (readIndentless? handles fuel tokens)
        else if properties.isPresent then some ([.scalar properties true ""], tokens)
        else none
      | .blockSequenceStart :: rest =>
        if place.block then
          before (.sequenceStart properties) (readBlockSequence? handles fuel rest)
        else if properties.isPresent then some ([.scalar properties true ""], tokens)
        else none
      | .blockMappingStart :: rest =>
        if place.block then
          before (.mappingStart properties) (readBlockMapping? handles fuel rest)
        else if properties.isPresent then some ([.scalar properties true ""], tokens)
        else none
      | _ => if properties.isPresent then some ([.scalar properties true ""], tokens) else none

/-- The entries of a block sequence up to its end. -/
def readBlockSequence? (handles : Handles) (fuel : Nat) (tokens : List Token) : Option Parsed :=
  match fuel with
  | 0 => none
  | fuel + 1 =>
    match tokens with
    | .blockEntry :: rest =>
      let entry := match rest with
        | .blockEntry :: _ | .blockEnd :: _ => some ([emptyScalar], rest)
        | _ => readNode? handles fuel Place.inBlock rest
      andThen entry (readBlockSequence? handles fuel)
    | .blockEnd :: rest => some ([.sequenceEnd], rest)
    | _ => none

/-- The entries of a sequence that is not indented, which ends where no further entry follows. -/
def readIndentless? (handles : Handles) (fuel : Nat) (tokens : List Token) : Option Parsed :=
  match fuel with
  | 0 => none
  | fuel + 1 =>
    match tokens with
    | .blockEntry :: rest =>
      let entry := match rest with
        | .blockEntry :: _ | .key :: _ | .value :: _ | .blockEnd :: _ =>
          some ([emptyScalar], rest)
        | _ => readNode? handles fuel Place.inBlock rest
      andThen entry (readIndentless? handles fuel)
    | _ => some ([.sequenceEnd], tokens)

/-- The keys and values of a block mapping up to its end. -/
def readBlockMapping? (handles : Handles) (fuel : Nat) (tokens : List Token) : Option Parsed :=
  match fuel with
  | 0 => none
  | fuel + 1 =>
    match tokens with
    | .key :: rest =>
      let key := match rest with
        | .key :: _ | .value :: _ | .blockEnd :: _ => some ([emptyScalar], rest)
        | _ => readNode? handles fuel Place.inMapping rest
      andThen (andThen key (readBlockValue? handles fuel)) (readBlockMapping? handles fuel)
    | .blockEnd :: rest => some ([.mappingEnd], rest)
    | _ => none

/-- The value of a block mapping, which may be missing. -/
def readBlockValue? (handles : Handles) (fuel : Nat) (tokens : List Token) : Option Parsed :=
  match fuel with
  | 0 => none
  | fuel + 1 =>
    match tokens with
    | .value :: rest =>
      match rest with
      | .key :: _ | .value :: _ | .blockEnd :: _ => some ([emptyScalar], rest)
      | _ => readNode? handles fuel Place.inMapping rest
    | _ => some ([emptyScalar], tokens)

/-- The entries of a sequence in brackets up to the closing one; the first needs no comma before
it. -/
def readFlowSequence? (handles : Handles) (fuel : Nat) (first : Bool) (tokens : List Token) :
    Option Parsed :=
  match fuel with
  | 0 => none
  | fuel + 1 =>
    match tokens with
    | .flowSequenceEnd :: rest => some ([.sequenceEnd], rest)
    | _ => do
      let tokens ←
        if first then some tokens
        else match tokens with
          | .flowEntry :: rest => some rest
          | _ => none
      match tokens with
      | .flowSequenceEnd :: rest => some ([.sequenceEnd], rest)
      | .key :: rest =>
        andThen (before (.mappingStart Properties.none) (readFlowPair? handles fuel rest))
          (readFlowSequence? handles fuel false)
      | _ =>
        andThen (readNode? handles fuel Place.inBrackets tokens)
          (readFlowSequence? handles fuel false)

/-- A mapping of one key and value that stands as an entry between brackets. Where the key is
missing the token after it is passed over. -/
def readFlowPair? (handles : Handles) (fuel : Nat) (tokens : List Token) : Option Parsed :=
  match fuel with
  | 0 => none
  | fuel + 1 =>
    let key := match tokens with
      | .value :: rest | .flowEntry :: rest | .flowSequenceEnd :: rest =>
        some ([emptyScalar], rest)
      | _ => readNode? handles fuel Place.inBrackets tokens
    andThen (andThen key fun tokens =>
      match tokens with
      | .value :: rest =>
        match rest with
        | .flowEntry :: _ | .flowSequenceEnd :: _ => some ([emptyScalar], rest)
        | _ => readNode? handles fuel Place.inBrackets rest
      | _ => some ([emptyScalar], tokens)) fun tokens => some ([.mappingEnd], tokens)

/-- The keys and values of a mapping in braces up to the closing one; the first needs no comma
before it. -/
def readFlowMapping? (handles : Handles) (fuel : Nat) (first : Bool) (tokens : List Token) :
    Option Parsed :=
  match fuel with
  | 0 => none
  | fuel + 1 =>
    match tokens with
    | .flowMappingEnd :: rest => some ([.mappingEnd], rest)
    | _ => do
      let tokens ←
        if first then some tokens
        else match tokens with
          | .flowEntry :: rest => some rest
          | _ => none
      match tokens with
      | .flowMappingEnd :: rest => some ([.mappingEnd], rest)
      | .key :: rest =>
        let key := match rest with
          | .value :: _ | .flowEntry :: _ | .flowMappingEnd :: _ => some ([emptyScalar], rest)
          | _ => readNode? handles fuel Place.inBrackets rest
        andThen (andThen key (readFlowValue? handles fuel)) (readFlowMapping? handles fuel false)
      | _ =>
        andThen (andThen (readNode? handles fuel Place.inBrackets tokens)
          fun tokens => some ([emptyScalar], tokens)) (readFlowMapping? handles fuel false)

/-- The value of a mapping in braces, which may be missing. -/
def readFlowValue? (handles : Handles) (fuel : Nat) (tokens : List Token) : Option Parsed :=
  match fuel with
  | 0 => none
  | fuel + 1 =>
    match tokens with
    | .value :: rest =>
      match rest with
      | .flowEntry :: _ | .flowMappingEnd :: _ => some ([emptyScalar], rest)
      | _ => readNode? handles fuel Place.inBrackets rest
    | _ => some ([emptyScalar], tokens)

end

/-! ## Documents -/

/-- The directives before a document: what handles stand for, and the tokens that are left. There is
at most one version, 1.1 or 1.2, and no handle is defined twice. -/
def readDirectives? (hasVersion : Bool) (handles : Handles) (tokens : List Token) :
    Option (Handles × List Token) :=
  match tokens with
  | .versionDirective major minor :: rest =>
    if hasVersion || major ≠ 1 || (minor ≠ 1 && minor ≠ 2) then none
    else readDirectives? true handles rest
  | .tagDirective handle start :: rest =>
    if (handles.lookup handle).isSome then none
    else readDirectives? hasVersion (handles ++ [(handle, start)]) rest
  | rest => some (handles, rest)

/-- The content of a document after its start mark, which may be missing. -/
def readContent? (handles : Handles) (tokens : List Token) : Option Parsed :=
  match tokens with
  | [] | .versionDirective .. :: _ | .tagDirective .. :: _ | .documentStart :: _
  | .documentEnd :: _ => some ([emptyScalar], tokens)
  | _ => readNode? handles (4 * tokens.length + 4) Place.inBlock tokens

/-- The events of the only document of a token sequence; no events if there is no document, and
`none` if there are several or the tokens form no document. -/
def eventsOfTokens? (tokens : List Token) : Option (List Event) :=
  if tokens.isEmpty then some []
  else do
    let (handles, rest) ← readDirectives? false [] tokens
    let handles := handles ++ defaultHandles
    let (events, rest) ←
      match rest with
      | .documentStart :: rest => readContent? handles rest
      | _ =>
        if rest.length = tokens.length then
          readNode? handles (4 * tokens.length + 4) Place.inBlock tokens
        else none
    if rest.all (· = .documentEnd) then some events else none

end Remap.Yaml
