import BenchTally.Text.Utf8
import BenchTally.Yaml.Flow

set_option autoImplicit false
set_option relaxedAutoImplicit false

/-!
# Anchors and tags

What may stand before a node: an anchor, by which the node can be referred to later, and a tag,
which names its type. A tag is written in full, or as a handle that a prefix is declared for and
the rest.

## Main definitions

* `Yaml.Tag` — the name of a type.
* `Yaml.Handles` — the prefixes that are declared.
* `Yaml.anchorName` — the name after the mark of an anchor or of a reference to one.
* `Yaml.tag` — the tag after its mark.
* `Yaml.Properties`, `Yaml.properties` — what stands before a node.
-/

namespace BenchTally.Yaml

/-- The name of a type. It is bytes because an escape may stand for any byte. -/
abbrev Tag := Bytes

/-- The start of the names of the types that yaml itself describes. -/
def coreTags : Tag := Text.encode "tag:yaml.org,2002:"

/-- The type with the given name of those that yaml itself describes. -/
def coreTag (name : String) : Tag :=
  coreTags ++ Text.encode name

/-- The prefixes that stand for a handle. An earlier entry hides a later one. -/
abbrev Handles := List (List Char × Tag)

/-- The handles that need no declaration. -/
def knownHandles : Handles :=
  [(['!'], Text.encode "!"), (['!', '!'], coreTags)]

/-- The characters of names. -/
def isNameChar (c : Char) : Bool :=
  c.isAlphanum || c == '_' || c == '-'

/-! ## Anchors -/

/-- The name at the start of a source, and the source after it. -/
def name (s : Source) : List Char × Source :=
  ((s.takeWhile fun g => isNameChar g.char).map (·.char), s.dropWhile fun g => isNameChar g.char)

/-- The name of an anchor, which only some characters may follow. -/
def anchorName (s : Source) : Option (List Char × Source) :=
  let (found, rest) := name s
  if !found.isEmpty && (blankAhead rest || oneOfAhead "?:,]\x7d%@`" rest) then some (found, rest)
  else none

/-! ## Tags -/

/-- The characters that stand for themselves in a tag. In full tags and in prefixes there are
three more. -/
def isTagChar (full : Bool) (c : Char) : Bool :=
  isNameChar c || ";/?:@&=+$.!~*'()".toList.contains c || full && ",[]".toList.contains c

/-- The number of bytes that follow a byte at the start of a character. -/
def following? (b : Nat) : Option Nat :=
  if b < 0x80 then some 0
  else if b < 0xc0 then none
  else if b < 0xe0 then some 1
  else if b < 0xf0 then some 2
  else if b < 0xf8 then some 3
  else none

/-- The bytes of a tag, and the source after it. The bytes of one character are escaped together;
`missing` tells how many there are still to come. -/
def tagBytes (full : Bool) (missing : Nat) : Source → Option (Bytes × Source)
  | [] => if missing = 0 then some ([], []) else none
  | g :: r =>
    if g.char = '%' then
      match r with
      | h :: i :: r' => do
        let byte := (← hexDigit? h.char) * 16 + (← hexDigit? i.char)
        let missing ←
          if missing = 0 then following? byte
          else if 0x80 ≤ byte ∧ byte < 0xc0 then some (missing - 1)
          else none
        let (bytes, rest) ← tagBytes full missing r'
        return (UInt8.ofNat byte :: bytes, rest)
      | _ => none
    else if missing ≠ 0 then none
    else if isTagChar full g.char then do
      let (bytes, rest) ← tagBytes full 0 r
      return (Text.encode g.char.toString ++ bytes, rest)
    else some ([], g :: r)

/-- The bytes before the first zero, which ends a part of a tag. -/
def untilZero (bytes : Bytes) : Bytes :=
  bytes.takeWhile (· != 0)

/-- A part of a tag, for which at least one byte is written, and the source after it. -/
def tagPart (full : Bool) (s : Source) : Option (Bytes × Source) := do
  let (bytes, rest) ← tagBytes full 0 s
  if bytes.isEmpty then none else some (untilZero bytes, rest)

/-- A tag between angle brackets, after the first of them. -/
def fullTag (s : Source) : Option (Tag × Source) := do
  match ← tagPart true s with
  | (bytes, g :: rest) => if g.char = '>' then some (bytes, rest) else none
  | (_, []) => none

/-- A tag that consists of a handle and the rest, after the mark. -/
def shortTag (handles : Handles) (s : Source) : Option (Tag × Source) := do
  let (handle, after) := name s
  if oneOfAhead "!" after then
    let (bytes, rest) ← tagPart false (after.drop 1)
    let start ← handles.lookup ('!' :: handle ++ ['!'])
    return (start ++ bytes, rest)
  else
    let (bytes, rest) ← tagBytes false 0 s
    if (untilZero bytes).isEmpty then return (Text.encode "!", rest)
    else return ((← handles.lookup ['!']) ++ untilZero bytes, rest)

/-- The tag after its mark. It is followed by a blank, or in a flow collection by a comma. -/
def tag (handles : Handles) (flow : Bool) (s : Source) : Option (Tag × Source) := do
  let (tag, rest) ←
    if oneOfAhead "<" s then fullTag (s.drop 1) else shortTag handles s
  if blankAhead rest || flow && oneOfAhead "," rest then some (tag, rest) else none

/-! ## What stands before a node -/

/-- What stands before a node. -/
structure Properties where
  /-- The name by which the node can be referred to. -/
  anchor : Option (List Char) := none
  /-- The type of the node. -/
  tag : Option Tag := none
  deriving DecidableEq, Repr

/-- There is none. -/
def Properties.isEmpty (p : Properties) : Bool :=
  p.anchor.isNone && p.tag.isNone

/-- The properties at the start of a source, and the source from the next token on. They end
where `ends` holds, and at the latest after the given number of them. -/
def propertiesUpTo (handles : Handles) (flow : Bool) (ends : Source → Bool) :
    Nat → Properties → Source → Option (Properties × Source)
  | 0, p, s => some (p, s)
  | _ + 1, p, [] => some (p, [])
  | k + 1, p, g :: r =>
    if ends (g :: r) then some (p, g :: r)
    else if g.char = '&' && p.anchor.isNone then do
      let (anchor, rest) ← anchorName r
      propertiesUpTo handles flow ends k { p with anchor := some anchor } (gap flow true rest)
    else if g.char = '!' && p.tag.isNone then do
      let (tag, rest) ← tag handles flow r
      propertiesUpTo handles flow ends k { p with tag := some tag } (gap flow true rest)
    else some (p, g :: r)

/-- The properties at the start of a source: one anchor and one tag at most, in any order. -/
def properties (handles : Handles) (flow : Bool) (ends : Source → Bool) (s : Source) :
    Option (Properties × Source) :=
  propertiesUpTo handles flow ends 2 {} s

end BenchTally.Yaml
