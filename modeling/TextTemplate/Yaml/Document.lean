import TextTemplate.Yaml.Layout
import TextTemplate.Yaml.Node

/-! # Documents

A text holds at most one document: directives, a line of hyphens, which may be
missing if there are no directives, and a node.  `readDocument?` gives the node, or
`empty` for a text without any. -/
namespace TextTemplate.Yaml

/-- The document of a text. -/
inductive Document where
  | empty
  | root (n : Node)
deriving Repr

/-- The tokens still to be read, and the numbers of the anchors met so far. -/
structure Reading where
  tokens : List Token
  anchors : List (List Char × Nat)

namespace Reading

/-- Goes on behind the next token. -/
def next (r : Reading) : Reading := { r with tokens := r.tokens.tail }

/-- Whether the next token is one of several. -/
def isAt (r : Reading) (tokens : List Token) : Bool := r.tokens.head?.any tokens.contains

/-- Gives an anchor the next number. -/
def addAnchor (r : Reading) (name : List Char) : Nat × Reading :=
  let others := r.anchors.filter (·.1 != name)
  let number := r.anchors.length
  (number, { r with anchors := (name, number) :: others })

end Reading

/-- A way of reading a node; it also gives what is left behind the node. -/
abbrev NodeReader := Reading → Option (Node × Reading)

/-! ## Properties -/

/-- What tag handles are short for. -/
abbrev Shorthands := List (List Char × Octets)

/-- The handles that need no directive. -/
def standardShorthands : Shorthands :=
  [(['!'], octets ['!']), (['!', '!'], octets "tag:yaml.org,2002:".toList)]

/-- What a tag says.  A private name starts with an exclamation mark.  The mark alone is
a private name too, in front of a scalar as elsewhere. -/
def Tag.ofOctets (text : Octets) : Tag :=
  if text = octets "tag:yaml.org,2002:null".toList then .null
  else if text = octets "tag:yaml.org,2002:bool".toList then .truth
  else if text = octets "tag:yaml.org,2002:int".toList then .whole
  else if text = octets "tag:yaml.org,2002:float".toList then .float
  else
    match text with
    | [] => .other
    | first :: name =>
      if first ≠ '!'.toNat.toUInt8 then .other
      else
        match String.fromUTF8? ⟨(if name.isEmpty then text else name).toArray⟩ with
        | some name => .variant name
        | none => .nameless

/-- The octets of a tag in full; its handle must be known. -/
def expand? (shorthands : Shorthands) (handle : List Char) (suffix : Octets) : Option Octets :=
  if handle.isEmpty then some suffix
  else (shorthands.lookup handle).map (· ++ suffix)

/-- The properties of a node as they are written. -/
structure Written where
  anchor : Option (List Char)
  tag : Option Octets

/-- The properties in front of a node: an anchor and a tag in either order. -/
def readProperties (shorthands : Shorthands) (r : Reading) : Option (Written × Reading) :=
  match r.tokens with
  | .anchor name :: .tag handle suffix :: rest | .tag handle suffix :: .anchor name :: rest =>
    (expand? shorthands handle suffix).map fun tag =>
      (⟨some name, some tag⟩, { r with tokens := rest })
  | .anchor name :: rest => some (⟨some name, none⟩, { r with tokens := rest })
  | .tag handle suffix :: rest =>
    (expand? shorthands handle suffix).map fun tag =>
      (⟨none, some tag⟩, { r with tokens := rest })
  | _ => some (⟨none, none⟩, r)

namespace Written

/-- Whether anything is written. -/
def isSome (w : Written) : Bool := w.anchor.isSome || w.tag.isSome

/-- The properties, with a number for the anchor. -/
def number (w : Written) (r : Reading) : Properties × Reading :=
  let tag := w.tag.map Tag.ofOctets
  match w.anchor with
  | none => (⟨none, tag⟩, r)
  | some name =>
    let (number, r) := r.addAnchor name
    (⟨some number, tag⟩, r)

end Written

/-! ## Collections

The readers of collections are given a reader for the nodes inside them, and a number
that bounds how many there are. -/

/-- A node, or the empty one if one of the tokens `ends` comes next. -/
def readUnless (ends : List Token) (node : NodeReader) : NodeReader := fun r =>
  if r.isAt ends then some (.nothing, r) else node r

/-- A value, if its mark comes next; it is empty if there is no mark, or if one of
the tokens `ends` follows. -/
def readValue (ends : List Token) (node : NodeReader) : NodeReader := fun r =>
  if r.isAt [.value] then readUnless ends node r.next else some (.nothing, r)

/-- The items of a block sequence and its end. -/
def readItems (node : NodeReader) : Nat → Reading → Option (List Node × Reading)
  | 0, _ => none
  | fuel + 1, r =>
    if r.isAt [.item] then do
      let (n, r) ← readUnless [.item, .blockEnd] node r.next
      let (ns, r) ← readItems node fuel r
      some (n :: ns, r)
    else if r.isAt [.blockEnd] then some ([], r.next)
    else none

/-- The items of a block sequence that is not indented.  It ends where no hyphen
follows. -/
def readFlushItems (node : NodeReader) : Nat → Reading → Option (List Node × Reading)
  | 0, _ => none
  | fuel + 1, r =>
    if r.isAt [.item] then do
      let (n, r) ← readUnless [.item, .key, .value, .blockEnd] node r.next
      let (ns, r) ← readFlushItems node fuel r
      some (n :: ns, r)
    else some ([], r)

/-- The entries of a block mapping and its end. -/
def readEntries (node : NodeReader) : Nat → Reading → Option (List (Node × Node) × Reading)
  | 0, _ => none
  | fuel + 1, r =>
    if r.isAt [.key] then do
      let ends : List Token := [.key, .value, .blockEnd]
      let (k, r) ← readUnless ends node r.next
      let (v, r) ← readValue ends node r
      let (es, r) ← readEntries node fuel r
      some ((k, v) :: es, r)
    else if r.isAt [.blockEnd] then some ([], r.next)
    else none

/-- A single entry in a flow sequence, behind its key token.  Where the key is empty
the token behind it is passed over as well. -/
def readPair (node : NodeReader) : NodeReader := fun r => do
  let (k, r) ←
    if r.isAt [.value, .comma, .flowSequenceEnd] then some (.nothing, r.next) else node r
  let (v, r) ← readValue [.comma, .flowSequenceEnd] node r
  some (.mapping .none [(k, v)], r)

/-- The items of a flow sequence and its end.  `first` says that no comma is needed. -/
def readFlowItems (node : NodeReader) :
    Nat → Bool → Reading → Option (List Node × Reading)
  | 0, _, _ => none
  | fuel + 1, first, r =>
    if r.isAt [.flowSequenceEnd] then some ([], r.next)
    else if !first && !r.isAt [.comma] then none
    else
      let r := if first then r else r.next
      if r.isAt [.flowSequenceEnd] then some ([], r.next) else do
      let (n, r) ← if r.isAt [.key] then readPair node r.next else node r
      let (ns, r) ← readFlowItems node fuel false r
      some (n :: ns, r)

/-- The entries of a flow mapping and its end.  A node without a key token in front
is a key with an empty value. -/
def readFlowEntries (node : NodeReader) :
    Nat → Bool → Reading → Option (List (Node × Node) × Reading)
  | 0, _, _ => none
  | fuel + 1, first, r =>
    if r.isAt [.flowMappingEnd] then some ([], r.next)
    else if !first && !r.isAt [.comma] then none
    else
      let r := if first then r else r.next
      if r.isAt [.flowMappingEnd] then some ([], r.next) else do
      let (e, r) ←
        if r.isAt [.key] then do
          let (k, r) ← readUnless [.value, .comma, .flowMappingEnd] node r.next
          let (v, r) ← readValue [.comma, .flowMappingEnd] node r
          some ((k, v), r)
        else (node r).map fun (k, r) => ((k, Node.nothing), r)
      let (es, r) ← readFlowEntries node fuel false r
      some (e :: es, r)

/-! ## Nodes -/

/-- Where a node stands, which decides the block collections it may be. -/
inductive Place where
  | inFlow
  | inBlock
  /-- In a block mapping, where a sequence need not be indented. -/
  | inMapping
deriving DecidableEq, Repr

/-- A node.  `depth` bounds its nesting. -/
def readNode (shorthands : Shorthands) : Nat → Place → NodeReader
  | 0, _, _ => none
  | depth + 1, place, r =>
    match r.tokens with
    | .alias name :: _ => (r.anchors.lookup name).map fun number => (.alias number, r.next)
    | _ => do
      let node := readNode shorthands depth
      let (w, r) ← readProperties shorthands r
      -- an anchor is known inside the node that it names
      let (p, inside) := w.number r.next
      let count := r.tokens.length
      match r.tokens, place with
      -- no token opens this sequence, so its first hyphen is still to come
      | .item :: _, .inMapping =>
        let (p, r) := w.number r
        (readFlushItems (node .inBlock) count r).map fun (ns, r) => (.sequence p ns, r)
      | .scalar plain text :: _, _ => some (.scalar p plain (String.ofList text), inside)
      | .flowSequenceStart :: _, _ =>
        (readFlowItems (node .inFlow) count true inside).map fun (ns, r) => (.sequence p ns, r)
      | .flowMappingStart :: _, _ =>
        (readFlowEntries (node .inFlow) count true inside).map fun (es, r) => (.mapping p es, r)
      | .sequenceStart :: _, .inBlock | .sequenceStart :: _, .inMapping =>
        (readItems (node .inBlock) count inside).map fun (ns, r) => (.sequence p ns, r)
      | .mappingStart :: _, .inBlock | .mappingStart :: _, .inMapping =>
        (readEntries (node .inMapping) count inside).map fun (es, r) => (.mapping p es, r)
      | _, _ =>
        -- properties alone stand for an empty scalar
        if w.isSome then
          let (p, r) := w.number r
          some (.scalar p true "", r)
        else none

/-! ## Documents -/

/-- Directives: the version at most once, and each handle at most once. -/
def readDirectives : List Token → Bool → Shorthands → Option (Shorthands × List Token)
  | .version major minor :: rest, versioned, shorthands =>
    if versioned ∨ major ≠ 1 ∨ (minor ≠ 1 ∧ minor ≠ 2) then none
    else readDirectives rest true shorthands
  | .shorthand handle expansion :: rest, versioned, shorthands =>
    if (shorthands.lookup handle).isSome then none
    else readDirectives rest versioned ((handle, expansion) :: shorthands)
  | rest, _, shorthands => some (shorthands ++ standardShorthands, rest)

/-- Whether the content of a document that was announced is empty. -/
def endsContent : List Token → Bool
  | [] => true
  | t :: _ =>
    match t with
    | .version _ _ | .shorthand _ _ | .documentStart | .documentEnd => true
    | _ => false

/-- The root of a document and the tokens behind it. -/
def readRoot (shorthands : Shorthands) (tokens : List Token) : Option (Node × List Token) :=
  (readNode shorthands (tokens.length + 1) .inBlock ⟨tokens, []⟩).map fun (n, r) =>
    (n, r.tokens)

/-- The first document. -/
def readFirst (tokens : List Token) : Option (Document × List Token) :=
  match tokens with
  | [] => some (.empty, [])
  | .version _ _ :: _ | .shorthand _ _ :: _ | .documentStart :: _ => do
    let (shorthands, rest) ← readDirectives tokens false []
    match rest with
    | .documentStart :: rest =>
      if endsContent rest then some (.root .nothing, rest)
      else (readRoot shorthands rest).map fun (n, rest) => (.root n, rest)
    | _ => none
  | _ => (readRoot standardShorthands tokens).map fun (n, rest) => (.root n, rest)

/-- The document of a text that holds no other. -/
def readDocument? (text : String) : Option Document := do
  let source ← sourceText? text.toList
  let tokens ← tokens? source
  let (document, rest) ← readFirst tokens
  if rest.all (· == .documentEnd) then some document else none

end TextTemplate.Yaml
