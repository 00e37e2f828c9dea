import Remap.Yaml.Token

set_option relaxedAutoImplicit false
set_option autoImplicit false

/-!
# The token sequence of a YAML text

In block style a collection starts where a line is indented further and ends where one is indented
less. A mapping key without a question mark is recognised only by the colon behind it, so every
token that may start such a key is remembered, and the tokens that the colon implies are put in
before it afterwards. Such a key lies on one line and takes at most 1024 bytes.

## Main definitions

* `Remap.Yaml.Layout` — what has been read: tokens, open collections, possible keys.
* `Remap.Yaml.Layout.next?` — reading one more token.
* `Remap.Yaml.tokens?` — the tokens of a text.
-/

namespace Remap.Yaml

/-- A token that may turn out to start a mapping key. -/
structure PossibleKey where
  /-- Whether it must turn out so, because no other token may stand at its column. -/
  required : Bool
  /-- The number of tokens before it. -/
  place : Nat
  index : Nat
  line : Nat
  column : Nat

/-- What has been read of a text. -/
structure Layout where
  /-- The place up to which the text has been read. -/
  source : Source
  tokens : Array Token
  /-- The column of the innermost block collection, -1 outside of all. -/
  indent : Int
  /-- The columns of the collections around it. -/
  outer : List Int
  /-- Whether a mapping key may start at the place. -/
  keyAllowed : Bool
  /-- The possible key of the block context. -/
  blockKey : Option PossibleKey
  /-- The possible keys of the open brackets, the innermost first. -/
  flowKeys : List (Option PossibleKey)

namespace Layout

/-- The start of a text. -/
def start (s : List Char) : Layout :=
  ⟨Source.start s, #[], -1, [], true, none, []⟩

/-- Whether the place is inside brackets. -/
def inBrackets (l : Layout) : Bool :=
  !l.flowKeys.isEmpty

/-- The column of the place. -/
def column (l : Layout) : Int :=
  l.source.column

/-- The layout with one more token and a place after it. -/
def push (l : Layout) (token : Token) (source : Source) : Layout :=
  { l with tokens := l.tokens.push token, source := source }

/-! ## Possible keys -/

/-- The possible key of the innermost context. -/
def possibleKey (l : Layout) : Option PossibleKey :=
  match l.flowKeys with
  | [] => l.blockKey
  | key :: _ => key

/-- The layout with another possible key in the innermost context. -/
def setPossibleKey (l : Layout) (key : Option PossibleKey) : Layout :=
  match l.flowKeys with
  | [] => { l with blockKey := key }
  | _ :: rest => { l with flowKeys := key :: rest }

/-- Gives up the possible key of the innermost context; refused if it was required. -/
def dropKey? (l : Layout) : Option Layout :=
  match l.possibleKey with
  | some key => if key.required then none else some (l.setPossibleKey none)
  | none => some l

/-- Remembers that a key may start here. -/
def saveKey? (l : Layout) : Option Layout :=
  if l.keyAllowed then do
    let required := !l.inBrackets && l.indent = l.column
    let cleared ← l.dropKey?
    return cleared.setPossibleKey
      (some ⟨required, l.tokens.size, l.source.index, l.source.line, l.source.column⟩)
  else some l

/-- Whether a possible key has become too old: it lies on an earlier line or too far back. -/
def isStale (l : Layout) (key : PossibleKey) : Bool :=
  key.line < l.source.line || key.index + 1024 < l.source.index

/-- A possible key as long as it is not stale; refused if it is stale and was required. -/
def freshKey? (l : Layout) : Option PossibleKey → Option (Option PossibleKey)
  | some key =>
    if l.isStale key then (if key.required then none else some none) else some (some key)
  | none => some none

/-- Gives up all stale keys. -/
def dropStale? (l : Layout) : Option Layout := do
  let blockKey ← l.freshKey? l.blockKey
  let flowKeys ← l.flowKeys.mapM l.freshKey?
  return { l with blockKey := blockKey, flowKeys := flowKeys }

/-! ## Indentation -/

/-- Opens a block collection at a column further right than the innermost one; its token is put
before the token with the given number. Inside brackets there are no block collections. -/
def openBlock (l : Layout) (column : Int) (place : Nat) (token : Token) : Layout :=
  if !l.inBrackets && l.indent < column then
    { l with
      tokens := l.tokens.insertIdxIfInBounds place token
      indent := column
      outer := l.indent :: l.outer }
  else l

/-- Closes the block collections of the given list that lie right of a column. -/
def closeBlocksFrom (column : Int) : List Int → Int → Array Token → Int × List Int × Array Token
  | [], indent, tokens => (indent, [], tokens)
  | next :: rest, indent, tokens =>
    if column < indent then closeBlocksFrom column rest next (tokens.push .blockEnd)
    else (indent, next :: rest, tokens)

/-- Closes all block collections that lie right of a column. -/
def closeBlocks (l : Layout) (column : Int) : Layout :=
  if l.inBrackets then l
  else
    let (indent, outer, tokens) := closeBlocksFrom column l.outer l.indent l.tokens
    { l with indent := indent, outer := outer, tokens := tokens }

/-! ## Blanks between tokens -/

/-- Skips byte order marks at the start of a line, blanks, comments and line breaks. Tabs count as
blanks inside brackets and where no key may start. After a line break in the block context a key may
start. -/
def skipGap (fuel : Nat) (l : Layout) : Layout :=
  match fuel with
  | 0 => l
  | fuel + 1 =>
    let tabs := l.inBrackets || !l.keyAllowed
    let s := (l.source.skipOrderMark.skipWhile fun c => c = ' ' || (tabs && c = '\t')).skipComment
    if s.isIn isBreak then
      skipGap fuel { l with source := s.skipBreak, keyAllowed := l.keyAllowed || !l.inBrackets }
    else { l with source := s }

/-! ## Tokens -/

/-- Ends the block context before a directive or a mark between documents. -/
def endDocument? (l : Layout) : Option Layout := do
  let l ← (l.closeBlocks (-1)).dropKey?
  return { l with keyAllowed := false }

/-- An opening bracket, which may start a key itself. -/
def openBracket? (l : Layout) (token : Token) : Option Layout := do
  let l ← l.saveKey?
  return { l with flowKeys := none :: l.flowKeys, keyAllowed := true }.push token (l.source.skip 1)

/-- A closing bracket. -/
def closeBracket? (l : Layout) (token : Token) : Option Layout := do
  let l ← l.dropKey?
  return { l with flowKeys := l.flowKeys.drop 1, keyAllowed := false }.push token (l.source.skip 1)

/-- A comma between brackets. -/
def flowEntry? (l : Layout) : Option Layout := do
  let l ← l.dropKey?
  return { l with keyAllowed := true }.push .flowEntry (l.source.skip 1)

/-- Opens a block collection at the place. -/
def openBlockHere (l : Layout) (token : Token) : Layout :=
  l.openBlock l.column l.tokens.size token

/-- The hyphen of a sequence entry. -/
def blockEntry? (l : Layout) : Option Layout := do
  if !l.inBrackets && !l.keyAllowed then none
  else
    let l ← (l.openBlockHere .blockSequenceStart).dropKey?
    return { l with keyAllowed := true }.push .blockEntry (l.source.skip 1)

/-- The question mark of a mapping key. -/
def key? (l : Layout) : Option Layout := do
  if !l.inBrackets && !l.keyAllowed then none
  else
    let l ← (l.openBlockHere .blockMappingStart).dropKey?
    return { l with keyAllowed := !l.inBrackets }.push .key (l.source.skip 1)

/-- The colon of a mapping value. If a key was possible it was one: its tokens are put in before
it. -/
def value? (l : Layout) : Option Layout :=
  match l.possibleKey with
  | some key =>
    let withKey := { l with tokens := l.tokens.insertIdxIfInBounds key.place .key }
    let opened := withKey.openBlock key.column key.place .blockMappingStart
    some ({ opened.setPossibleKey none with keyAllowed := false }.push .value (l.source.skip 1))
  | none =>
    if !l.inBrackets && !l.keyAllowed then none
    else
      let opened := l.openBlockHere .blockMappingStart
      some ({ opened with keyAllowed := !l.inBrackets }.push .value (l.source.skip 1))

/-- A token that may start a key. -/
def wordToken? (l : Layout) (read : Source → Option (Token × Source)) : Option Layout := do
  let l ← l.saveKey?
  let (token, s) ← read l.source
  return { l with keyAllowed := false }.push token s

/-- A block scalar. -/
def blockScalar? (l : Layout) (fuel : Nat) (folded : Bool) : Option Layout := do
  let l ← l.dropKey?
  let (text, s) ← readBlock? folded l.indent fuel l.source
  return { l with keyAllowed := true }.push (.scalar false text) s

/-- A scalar in quotes. -/
def quotedScalar? (l : Layout) (fuel : Nat) (quote : Char) : Option Layout :=
  l.wordToken? fun s => (readQuoted? quote fuel s).map fun (text, s) => (.scalar false text, s)

/-- A plain scalar. A line break behind it allows a key again. -/
def plainScalar? (l : Layout) (fuel : Nat) : Option Layout := do
  let l ← l.saveKey?
  let (text, s, broken) ← readPlain? l.inBrackets (l.indent + 1) fuel l.source
  return { l with keyAllowed := broken }.push (.scalar true text) s

/-- Whether a plain scalar may start at a place. -/
def startsPlain (inBrackets : Bool) (c : Char) (next : Option Char) : Bool :=
  let isIndicator := isFlowMark c || c = '-' || c = '?' || c = ':' || c = '#' || c = '&' ||
    c = '*' || c = '!' || c = '|' || c = '>' || c = '\x27' || c = '\"' || c = '%' || c = '@' ||
    c = '\x60'
  !(isBlank c || isIndicator) || (c = '-' && !next.any isBlank) ||
    (!inBrackets && (c = '?' || c = ':') && !endsWord next)

/-- Reads the token at the place, where the given character stands. The fuel is greater than the
number of characters left. -/
def token? (l : Layout) (fuel : Nat) (c : Char) : Option Layout :=
  let s := l.source
  let next := s.ahead 1
  if s.column = 0 && c = '%' then do
    let l ← l.endDocument?
    let (token, s) ← readDirective? l.source
    return l.push token s
  else if s.isAtDocumentMark then do
    let l ← l.endDocument?
    return l.push (if c = '-' then .documentStart else .documentEnd) (s.skip 3)
  else if c = '[' then l.openBracket? .flowSequenceStart
  else if c = '{' then l.openBracket? .flowMappingStart
  else if c = ']' then l.closeBracket? .flowSequenceEnd
  else if c = '}' then l.closeBracket? .flowMappingEnd
  else if c = ',' then l.flowEntry?
  else if c = '-' && endsWord next then l.blockEntry?
  else if c = '?' && (l.inBrackets || endsWord next) then l.key?
  else if c = ':' && (l.inBrackets || endsWord next) then l.value?
  else if c = '*' then
    l.wordToken? fun s => (readAnchorName? (s.skip 1)).map fun (name, s) => (.alias name, s)
  else if c = '&' then
    l.wordToken? fun s => (readAnchorName? (s.skip 1)).map fun (name, s) => (.anchor name, s)
  else if c = '!' then l.wordToken? (readTag? l.inBrackets)
  else if c = '|' && !l.inBrackets then l.blockScalar? fuel false
  else if c = '>' && !l.inBrackets then l.blockScalar? fuel true
  else if c = '\x27' || c = '\"' then l.quotedScalar? fuel c
  else if startsPlain l.inBrackets c next then l.plainScalar? fuel
  else none

/-- Closes all collections at the end of the text. -/
def finish? (l : Layout) : Option (List Token) := do
  let l ← (l.closeBlocks (-1)).dropKey?
  return l.tokens.toList

/-- Reads tokens to the end of the text. Every token takes a character, so a fuel greater than the
number of characters left stays so. -/
def readAll? (fuel : Nat) (l : Layout) : Option (List Token) :=
  match fuel with
  | 0 => none
  | fuel + 1 => do
    let l ← (l.skipGap (fuel + 1)).dropStale?
    let l := l.closeBlocks l.column
    match l.source.peek with
    | none => l.finish?
    | some c => (l.token? (fuel + 1) c).bind (readAll? fuel)

end Layout

/-- The tokens of a text; `none` where there is no token to read. -/
def tokens? (text : String) : Option (List Token) :=
  let s := text.toList
  if s.all isAllowed then (Layout.start s).readAll? (s.length + 1) else none

end Remap.Yaml
