import TextTemplate.Yaml.Scalar
import TextTemplate.Yaml.Token

/-! # Layout

Reading tokens keeps track of the layout of the text: the columns of the open block
collections, and the places where a key may have begun.  Whether a scalar is a key is
known only at the colon behind it; the token that announces the key, and the start of
the mapping if the key is its first, are then put in front of it (`Layout.readColon`).
A key must stand on one line and be at most `keyLimit` bytes long. -/
namespace TextTemplate.Yaml

/-- The greatest number of bytes between the start of a key and its colon. -/
def keyLimit : Nat := 1024

/-- A place where a key may have begun. -/
structure Candidate where
  /-- Nothing but a key may stand here. -/
  required : Bool
  /-- The number of tokens before the place. -/
  position : Nat
  offset : Nat
  line : Nat
  column : Nat
deriving DecidableEq, Repr

/-- The tokens read so far and what governs the next one. -/
structure Layout where
  cursor : Cursor
  /-- The tokens, the last one first. -/
  tokens : List Token
  /-- The columns of the open block collections, the innermost first. -/
  columns : List Nat
  /-- Where a key may have begun in the collection at hand. -/
  candidate : Option Candidate
  /-- The same for what is around each open flow collection, the innermost first. -/
  enclosing : List (Option Candidate)
  /-- Whether a key may begin at the next token. -/
  keyAllowed : Bool

namespace Layout

/-- The layout in front of a text. -/
def start (text : List Char) : Layout := ⟨.start text, [], [], none, [], true⟩

/-- Whether the place is inside a flow collection. -/
def inFlow (s : Layout) : Bool := !s.enclosing.isEmpty

/-- The least column of what is nested in the innermost block collection. -/
def nestedColumn (s : Layout) : Nat :=
  match s.columns with
  | [] => 0
  | column :: _ => column + 1

/-- Adds a token behind the others and goes on at a place. -/
def push (s : Layout) (token : Token) (c : Cursor) : Layout :=
  { s with tokens := token :: s.tokens, cursor := c }

/-- Puts a token in front of all but the first `position` ones. -/
def insertAt (s : Layout) (position : Nat) (token : Token) : Layout :=
  { s with tokens := s.tokens.insertIdx (s.tokens.length - position) token }

/-- Ends the innermost block collections whose columns pass a test. -/
def endBlocks (s : Layout) (test : Nat → Bool) : Layout :=
  if s.inFlow then s else
  let ended := s.columns.takeWhile test
  { s with
    columns := s.columns.drop ended.length
    tokens := List.replicate ended.length .blockEnd ++ s.tokens }

/-- Starts a block collection unless one is open at the column. -/
def startBlock (s : Layout) (column position : Nat) (token : Token) : Layout :=
  if s.inFlow || !s.columns.head?.all (· < column) then s
  else { s.insertAt position token with columns := column :: s.columns }

/-! ## Candidates for keys -/

/-- Gives the candidate up, which fails if a key is required there. -/
def dropCandidate (s : Layout) : Option Layout :=
  if s.candidate.any (·.required) then none else some { s with candidate := none }

/-- Remembers the next token as a candidate if a key may begin there. -/
def markCandidate (s : Layout) : Option Layout :=
  if s.keyAllowed then do
    let s ← s.dropCandidate
    -- in a block, content at the column of the collection around can only be a key
    let required := !s.inFlow && s.columns.head? == some s.cursor.column
    some { s with
      candidate := some
        ⟨required, s.tokens.length, s.cursor.offset, s.cursor.line, s.cursor.column⟩ }
  else some s

/-- The candidate, if its line has not ended and it is not too long. -/
def current (c : Cursor) (candidate : Option Candidate) : Option (Option Candidate) :=
  match candidate with
  | none => some none
  | some k =>
    if k.line = c.line ∧ c.offset ≤ k.offset + keyLimit then some (some k)
    else if k.required then none
    else some none

/-- Gives up the candidates that can no longer be keys. -/
def expire (s : Layout) : Option Layout := do
  let candidate ← current s.cursor s.candidate
  let enclosing ← s.enclosing.mapM (current s.cursor)
  some { s with candidate := candidate, enclosing := enclosing }

/-! ## Tokens -/

/-- A directive, or a line that starts or ends a document; all block collections end. -/
def readBoundary (s : Layout) (token : Token) (c : Cursor) : Option Layout := do
  let s ← (s.endBlocks fun _ => true).dropCandidate
  some { s.push token c with keyAllowed := false }

/-- The opening mark of a flow collection. -/
def openFlow (s : Layout) (token : Token) : Option Layout := do
  let s ← s.markCandidate
  some { s.push token s.cursor.next with
    candidate := none, enclosing := s.candidate :: s.enclosing, keyAllowed := true }

/-- The closing mark of a flow collection. -/
def closeFlow (s : Layout) (token : Token) : Option Layout := do
  let s ← s.dropCandidate
  some { s.push token s.cursor.next with
    candidate := s.enclosing.headD none, enclosing := s.enclosing.tail, keyAllowed := false }

/-- The comma between items of a flow collection. -/
def readComma (s : Layout) : Option Layout := do
  let s ← s.dropCandidate
  some { s.push .comma s.cursor.next with keyAllowed := true }

/-- Starts a block collection at the cursor, which only a place for keys can do. -/
def startHere (s : Layout) (token : Token) : Option Layout :=
  if s.inFlow then some s
  else if s.keyAllowed then some (s.startBlock s.cursor.column s.tokens.length token)
  else none

/-- The hyphen in front of an item. -/
def readHyphen (s : Layout) : Option Layout := do
  let s ← (← s.startHere .sequenceStart).dropCandidate
  some { s.push .item s.cursor.next with keyAllowed := true }

/-- The question mark in front of a key. -/
def readQuestion (s : Layout) : Option Layout := do
  let s ← (← s.startHere .mappingStart).dropCandidate
  some { s.push .key s.cursor.next with keyAllowed := !s.inFlow }

/-- The colon in front of a value.  A candidate becomes a key. -/
def readColon (s : Layout) : Option Layout :=
  match s.candidate with
  | some k =>
    -- the mapping starts at the key, which has been read already
    let s := (s.insertAt k.position .key).startBlock k.column k.position .mappingStart
    some { s.push .value s.cursor.next with candidate := none, keyAllowed := false }
  | none => do
    let s ← s.startHere .mappingStart
    some { s.push .value s.cursor.next with keyAllowed := !s.inFlow }

/-- A token that may begin a key, read from the cursor. -/
def readContent (s : Layout) (read : Cursor → Option (Token × Cursor)) : Option Layout := do
  let s ← s.markCandidate
  let (token, c) ← read s.cursor
  some { s.push token c with keyAllowed := false }

/-- A quoted scalar. -/
def readQuotedScalar (s : Layout) (mark : Char) : Option Layout :=
  s.readContent fun c => (readQuoted mark c.next).map fun (text, c) => (.scalar false text, c)

/-- A block scalar. -/
def readBlockScalar (s : Layout) (folds : Bool) : Option Layout := do
  let s ← s.dropCandidate
  -- columns to the left of this one belong to the collection around
  let (text, c) ← readBlock folds s.nestedColumn s.cursor.next
  some { s.push (.scalar false text) c with keyAllowed := true }

/-- A plain scalar.  A key may begin behind it if it ended with its line. -/
def readPlainScalar (s : Layout) : Option Layout := do
  let s ← s.markCandidate
  let plain ← readPlain s.inFlow s.nestedColumn s.cursor
  some { s.push (.scalar true plain.text) plain.after with keyAllowed := plain.broken }

/-- The next token.  The cursor stands at its first character, `x`, in front of
`rest`. -/
def readToken (s : Layout) (x : Char) (rest : List Char) : Option Layout :=
  let c := s.cursor
  if c.column = 0 ∧ x = '%' then do
    let (token, after) ← readDirective c
    s.readBoundary token after
  else if c.atMarker '-' then s.readBoundary .documentStart (c.skip 3)
  else if c.atMarker '.' then s.readBoundary .documentEnd (c.skip 3)
  else if x = '[' then s.openFlow .flowSequenceStart
  else if x = '{' then s.openFlow .flowMappingStart
  else if x = ']' then s.closeFlow .flowSequenceEnd
  else if x = '}' then s.closeFlow .flowMappingEnd
  else if x = ',' then s.readComma
  else if x = '-' ∧ endsWord rest then s.readHyphen
  else if x = '?' ∧ (s.inFlow ∨ endsWord rest) then s.readQuestion
  else if x = ':' ∧ (s.inFlow ∨ endsWord rest) then s.readColon
  else if x = '*' then
    s.readContent fun c => (readName c.next).map fun (name, c) => (.alias name, c)
  else if x = '&' then
    s.readContent fun c => (readName c.next).map fun (name, c) => (.anchor name, c)
  else if x = '!' then s.readContent (readTag s.inFlow)
  else if x = '|' ∧ !s.inFlow then s.readBlockScalar false
  else if x = '>' ∧ !s.inFlow then s.readBlockScalar true
  else if x = '\'' ∨ x = '"' then s.readQuotedScalar x
  else if startsPlain s.inFlow c.rest then s.readPlainScalar
  else none

/-- Skips blanks, comments, line breaks and marks of the byte order.  A tab counts as a
blank only where no key may begin or inside a flow collection; a line break allows a
key outside one. -/
def skipWhite : Nat → Layout → Layout
  | 0, s => s
  | fuel + 1, s =>
    let tabs := s.inFlow || !s.keyAllowed
    let isBlank (c : Char) : Bool := c == ' ' || (tabs && c == '\t')
    let c := (s.cursor.skipByteOrderMark.skipWhile isBlank).skipComment
    if c.rest.head?.any isBreak then
      skipWhite fuel { s with cursor := c.next, keyAllowed := s.keyAllowed || !s.inFlow }
    else { s with cursor := c }

/-- The tokens of the text that is left.  `fuel` bounds their number. -/
def readAll : Nat → Layout → Option Layout
  | 0, _ => none
  | fuel + 1, s => do
    let s ← (skipWhite (s.cursor.rest.length + 1) s).expire
    -- text to the left of a block collection ends it
    let s := s.endBlocks (s.cursor.column < ·)
    match s.cursor.rest with
    | [] => (s.endBlocks fun _ => true).dropCandidate
    | x :: rest => readAll fuel (← s.readToken x rest)

end Layout

/-- The tokens of a text. -/
def tokens? (text : List Char) : Option (List Token) :=
  (Layout.readAll (text.length + 1) (.start text)).map (·.tokens.reverse)

end TextTemplate.Yaml
