import TextTemplate.Number.Text
import TextTemplate.Yaml.Cursor

/-! # Tokens

A document is a sequence of tokens.  Indentation is spelled out: a block collection
has a token at its start and one at its end, and a key has one in front of it even
where no mark is written.

The tokens with a text of their own are read here, all but scalars.  Anchors and
aliases are names.  A tag is written as a handle and a suffix, or in full between
angle brackets; characters outside ASCII are written as octets behind percent signs.
A directive at the start of a line states the version of the format or what a handle
is short for. -/
namespace TextTemplate.Yaml

/-- The octets of a name that may hold encoded characters. -/
abbrev Octets := List UInt8

/-- A token. -/
inductive Token where
  | version (major minor : Nat)
  /-- What a tag handle is short for. -/
  | shorthand (handle : List Char) (expansion : Octets)
  | documentStart
  | documentEnd
  | sequenceStart
  | mappingStart
  /-- The end of a block collection. -/
  | blockEnd
  | flowSequenceStart
  | flowSequenceEnd
  | flowMappingStart
  | flowMappingEnd
  /-- The hyphen in front of an item. -/
  | item
  /-- The comma between items of a flow collection. -/
  | comma
  | key
  | value
  | alias (name : List Char)
  | anchor (name : List Char)
  | tag (handle : List Char) (suffix : Octets)
  | scalar (plain : Bool) (text : List Char)
deriving DecidableEq, Repr

/-- The characters of names. -/
def isNameChar (c : Char) : Bool := c.isAlphanum || c == '_' || c == '-'

/-! ## Octets -/

/-- The octets of ASCII text. -/
def octets (text : List Char) : Octets := text.map (·.toNat.toUInt8)

/-- One octet behind a percent sign. -/
def readOctet (c : Cursor) : Option (Nat × Cursor) :=
  match c.rest with
  | '%' :: high :: low :: _ => do
    let n ← numberIn? 16 [high, low]
    some (n, c.skip 3)
  | _ => none

/-- The number of octets of a character, by its first octet. -/
def octetCount? (lead : Nat) : Option Nat :=
  if lead < 0x80 then some 1
  else if lead < 0xc0 then none
  else if lead < 0xe0 then some 2
  else if lead < 0xf0 then some 3
  else if lead < 0xf8 then some 4
  else none

/-- A number of octets that go on with a character. -/
def readTrail : Nat → Cursor → Option (Octets × Cursor)
  | 0, c => some ([], c)
  | n + 1, c => do
    let (octet, c) ← readOctet c
    if octet < 0x80 ∨ 0xc0 ≤ octet then none else
    let (more, c) ← readTrail n c
    some (octet.toUInt8 :: more, c)

/-- The octets of a character. -/
def readEncoded (c : Cursor) : Option (Octets × Cursor) := do
  let (lead, c) ← readOctet c
  let count ← octetCount? lead
  let (trail, c) ← readTrail (count - 1) c
  some (lead.toUInt8 :: trail, c)

/-! ## Tags -/

/-- The characters of a tag.  Some marks of flow collections are among them where
the tag cannot be part of one. -/
def isTagChar (marks : Bool) (c : Char) : Bool :=
  isNameChar c || ";/?:@&=+$.%!~*'()".toList.contains c || (marks && ",[]".toList.contains c)

/-- The octets of the tag characters in front. -/
def readTagChars (marks : Bool) : Nat → Cursor → Option (Octets × Cursor)
  | 0, c => some ([], c)
  | fuel + 1, c =>
    match c.rest with
    | [] => some ([], c)
    | x :: _ =>
      if x = '%' then do
        let (first, c) ← readEncoded c
        let (more, c) ← readTagChars marks fuel c
        some (first ++ more, c)
      else if isTagChar marks x then
        (readTagChars marks fuel c.next).map fun (more, c) => (octets [x] ++ more, c)
      else some ([], c)

/-- The text of a tag, which an octet zero ends. -/
def untilZero (text : Octets) : Octets := text.takeWhile (· != 0)

/-- At least one tag character. -/
def readTagText (marks : Bool) (c : Cursor) : Option (Octets × Cursor) := do
  let (text, c) ← readTagChars marks c.rest.length c
  if text.isEmpty then none else some (untilZero text, c)

/-- An exclamation mark, and a name with another one if there is one. -/
def readHandle (c : Cursor) : List Char × Cursor :=
  let (name, c) := c.next.span isNameChar
  match c.rest with
  | '!' :: _ => ('!' :: (name ++ ['!']), c.next)
  | _ => ('!' :: name, c)

/-- Whether the text is a handle of its own, not the start of a suffix. -/
def isFullHandle (handle : List Char) : Bool :=
  1 < handle.length && handle.getLast? == some '!'

/-- A tag in one of its three forms: in full, behind a handle, or behind a single
exclamation mark, which may also stand alone. -/
def readTagParts (c : Cursor) : Option ((List Char × Octets) × Cursor) :=
  match c.rest with
  | '!' :: '<' :: _ => do
    let (suffix, c) ← readTagText true (c.skip 2)
    match c.rest with
    | '>' :: _ => some (([], suffix), c.next)
    | _ => none
  | _ =>
    let (handle, c) := readHandle c
    if isFullHandle handle then
      (readTagText false c).map fun (suffix, c) => ((handle, suffix), c)
    else do
      let (more, c) ← readTagChars false c.rest.length c
      let suffix := untilZero (octets handle.tail ++ more)
      some (if suffix.isEmpty then ([], octets ['!']) else (['!'], suffix), c)

/-- A tag as a word. -/
def readTag (flow : Bool) (c : Cursor) : Option (Token × Cursor) := do
  let ((handle, suffix), c) ← readTagParts c
  if endsWord c.rest || (flow && c.rest.head? == some ',') then some (.tag handle suffix, c)
  else none

/-- The name of an anchor or an alias, which must end as a word or in front of one
of several marks. -/
def readName (c : Cursor) : Option (List Char × Cursor) :=
  let (name, c) := c.span isNameChar
  let ends := endsWord c.rest || c.rest.head?.any "?:,]\x7d%@\x60".toList.contains
  if name.isEmpty || !ends then none else some (name, c)

/-! ## Directives -/

/-- A number of at most nine digits. -/
def readVersionNumber (c : Cursor) : Option (Nat × Cursor) := do
  let (digits, c) := c.span Char.isDigit
  if digits.isEmpty ∨ 9 < digits.length then none else
  let n ← numberIn? 10 digits
  some (n, c)

/-- The version of the format. -/
def readVersion (c : Cursor) : Option (Token × Cursor) := do
  let (major, c) ← readVersionNumber (c.skipWhile isBlank)
  match c.rest with
  | '.' :: _ => do
    let (minor, c) ← readVersionNumber c.next
    some (.version major minor, c)
  | _ => none

/-- A handle and what it is short for. -/
def readShorthand (c : Cursor) : Option (Token × Cursor) := do
  let c := c.skipWhile isBlank
  if c.rest.head? ≠ some '!' then none else
  let (handle, c) := readHandle c
  if !isFullHandle handle && handle != ['!'] then none else
  if !c.rest.head?.any isBlank then none else
  let (expansion, c) ← readTagText true (c.skipWhile isBlank)
  if endsWord c.rest then some (.shorthand handle expansion, c) else none

/-- A directive to the start of the next line; the cursor stands at its percent
sign. -/
def readDirective (c : Cursor) : Option (Token × Cursor) := do
  let (name, c) := c.next.span isNameChar
  if !endsWord c.rest then none else
  let (token, c) ←
    if name = "YAML".toList then readVersion c
    else if name = "TAG".toList then readShorthand c
    else none
  let c := (c.skipWhile isBlank).skipComment
  if c.rest.head?.all isBreak then some (token, c.next) else none

end TextTemplate.Yaml
