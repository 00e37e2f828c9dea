set_option relaxedAutoImplicit false
set_option autoImplicit false

/-!
# Tags of YAML nodes

A tag names the kind of a node. It is kept as bytes, because the escapes in a tag may spell bytes
that form no text. A zero byte ends the part of a tag in which it stands.

## Main definitions

* `Remap.Yaml.Tag` — a tag; `Remap.Yaml.Tag.core` — the tags that the schema defines.
* `Remap.Yaml.Tag.untilZero` — what counts of the bytes that are written.
* `Remap.Yaml.Tag.isLocal`, `Remap.Yaml.Tag.namesType` — the tags of an application.
-/

namespace Remap.Yaml

/-- The bytes of a tag. -/
abbrev Tag := List UInt8

namespace Tag

/-- The UTF-8 bytes of a text. -/
def ofString (s : String) : Tag :=
  s.toUTF8.data.toList

/-- The lone exclamation mark. -/
def mark : Tag :=
  ofString "!"

/-- What the tags that the schema defines start with. -/
def coreStart : Tag :=
  ofString "tag:yaml.org,2002:"

/-- A tag that the schema defines. -/
def core (name : String) : Tag :=
  coreStart ++ ofString name

/-- The bytes before the first zero byte. -/
def untilZero (bytes : List UInt8) : Tag :=
  bytes.takeWhile (· ≠ 0)

/-- Whether the tag starts with an exclamation mark. -/
def isLocal (tag : Tag) : Bool :=
  tag.head? = some '!'.toUInt8

/-- Whether the tag is local and the bytes after its mark form a text, so that it names a type of an
application. The lone mark does. -/
def namesType (tag : Tag) : Bool :=
  tag.isLocal && (String.fromUTF8? ⟨(tag.drop 1).toArray⟩).isSome

end Tag

end Remap.Yaml
