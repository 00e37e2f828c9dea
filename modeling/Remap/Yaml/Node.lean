import Remap.Yaml.Event

set_option relaxedAutoImplicit false
set_option autoImplicit false

/-!
# Nodes of a YAML document

The tree of a document. An alias refers to an anchored node by a number; anchored nodes are kept
beside the tree, so that a node may hold an alias of itself.

An anchor takes as its number how many different anchor names there are when it is met. A name that
is anchored again therefore may share its number with a name that comes later, and all aliases of
that number then stand for the node that took it last.

## Main definitions

* `Remap.Yaml.Node` — a node.
* `Remap.Yaml.Document` — the tree of a document with its anchored nodes.
* `Remap.Yaml.Document.ofText?` — the document of a text.
-/

namespace Remap.Yaml

/-- A node of a document. -/
inductive Node where
  | alias (number : Nat)
  | scalar (tag : Option Tag) (plain : Bool) (text : String)
  | sequence (tag : Option Tag) (items : List Node)
  | mapping (tag : Option Tag) (entries : List (Node × Node))

/-- The tree of a document with its anchored nodes. -/
structure Document where
  /-- The node of the whole document; a text may hold none. -/
  root : Option Node
  /-- The anchored nodes by number. -/
  anchored : List (Nat × Node)
  /-- The number of events of the document. -/
  size : Nat

/-! ## Anchors -/

/-- The anchors met so far. -/
structure Anchors where
  /-- The number that each name stands for. -/
  numbers : List (String × Nat)
  /-- The event that took each number, the last one first. -/
  places : List (Nat × Nat)

/-- The anchors with one more, whose node starts at the given event. -/
def Anchors.add (a : Anchors) (name : String) (place : Nat) : Anchors :=
  let number := a.numbers.length
  let others := a.numbers.filter fun entry => entry.1 ≠ name
  ⟨(name, number) :: others, (number, place) :: a.places⟩

/-- The anchor of an event. -/
def Event.anchor? : Event → Option String
  | .scalar properties _ _ => properties.anchor
  | .sequenceStart properties => properties.anchor
  | .mappingStart properties => properties.anchor
  | _ => none

/-- Numbers the aliases of the events from the given place on: the number of every alias in order,
and all anchors. An alias of an unknown name is refused. -/
def numberAliases? (place : Nat) (anchors : Anchors) : List Event → Option (List Nat × Anchors)
  | [] => some ([], anchors)
  | .alias name :: rest => do
    let number ← anchors.numbers.lookup name
    let (numbers, anchors) ← numberAliases? (place + 1) anchors rest
    return (number :: numbers, anchors)
  | event :: rest =>
    match event.anchor? with
    | some name => numberAliases? (place + 1) (anchors.add name place) rest
    | none => numberAliases? (place + 1) anchors rest

/-! ## Trees -/

/-- What is left of the events and of the numbers of their aliases. -/
abbrev Events := List Event × List Nat

mutual

/-- The node at the start of the events. The fuel bounds the number of nested and successive
readings. -/
def readTree? (fuel : Nat) (events : Events) : Option (Node × Events) :=
  match fuel with
  | 0 => none
  | fuel + 1 =>
    match events with
    | (.alias _ :: rest, number :: numbers) => some (.alias number, rest, numbers)
    | (.scalar properties plain text :: rest, numbers) =>
      some (.scalar properties.tag plain text, rest, numbers)
    | (.sequenceStart properties :: rest, numbers) =>
      (readItems? fuel (rest, numbers)).map fun (items, events) =>
        (.sequence properties.tag items, events)
    | (.mappingStart properties :: rest, numbers) =>
      (readEntries? fuel (rest, numbers)).map fun (entries, events) =>
        (.mapping properties.tag entries, events)
    | _ => none

/-- The items of a sequence up to its end. -/
def readItems? (fuel : Nat) (events : Events) : Option (List Node × Events) :=
  match fuel with
  | 0 => none
  | fuel + 1 =>
    match events with
    | (.sequenceEnd :: rest, numbers) => some ([], rest, numbers)
    | _ => do
      let (item, events) ← readTree? fuel events
      let (items, events) ← readItems? fuel events
      return (item :: items, events)

/-- The keys and values of a mapping up to its end. -/
def readEntries? (fuel : Nat) (events : Events) : Option (List (Node × Node) × Events) :=
  match fuel with
  | 0 => none
  | fuel + 1 =>
    match events with
    | (.mappingEnd :: rest, numbers) => some ([], rest, numbers)
    | _ => do
      let (key, events) ← readTree? fuel events
      let (value, events) ← readTree? fuel events
      let (entries, events) ← readEntries? fuel events
      return ((key, value) :: entries, events)

end

/-- The node at the start of the events. -/
def Node.ofEvents? (events : Events) : Option Node :=
  (readTree? (events.1.length + 1) events).map Prod.fst

/-- The number of aliases among the events. -/
def countAliases (events : List Event) : Nat :=
  events.countP fun event => match event with
    | .alias _ => true
    | _ => false

/-- The node that starts at a place among the events. -/
def nodeAt? (events : List Event) (numbers : List Nat) (place : Nat) : Option Node :=
  Node.ofEvents? (events.drop place, numbers.drop (countAliases (events.take place)))

namespace Document

/-- The document of its events. -/
def ofEvents? (events : List Event) : Option Document := do
  let (numbers, anchors) ← numberAliases? 0 ⟨[], []⟩ events
  let anchored := anchors.places.filterMap fun (number, place) =>
    (nodeAt? events numbers place).map fun node => (number, node)
  return ⟨nodeAt? events numbers 0, anchored, events.length⟩

/-- The document of a text; `none` if the text is not YAML or holds several documents. -/
def ofText? (text : String) : Option Document :=
  ((tokens? text).bind eventsOfTokens?).bind ofEvents?

/-- The anchored node of a number. -/
def anchored? (d : Document) (number : Nat) : Option Node :=
  d.anchored.lookup number

end Document

end Remap.Yaml
