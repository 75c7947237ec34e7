import TextTemplate.Number.Text
import TextTemplate.Yaml.Cursor

/-! # Scalars

A scalar is text in one of three forms: plain, between quotation marks, or as a block
of lines below a header.  In all of them text that is spread over several lines can
read as one. -/
namespace TextTemplate.Yaml

/-! ## Folding lines

A text that is spread over several lines reads as one: the blanks around a line
break fall away, a single break becomes a space, and of several breaks the first
falls away.  The separators that Unicode adds are kept as they are. -/

/-- The line breaks of a run of blanks and breaks. -/
def breaksOf (run : List Char) : List Char := run.filter isBreak

/-- What a run of blanks and breaks between two words stands for. -/
def folded (run : List Char) : List Char :=
  match breaksOf run with
  | [] => run
  | ['\n'] => [' ']
  | '\n' :: more => more
  | breaks => breaks

/-- Whether no tab stands in the first `indent` columns of the lines that begin in
a run of blanks and breaks.  `column` is where the run is in its line, once a line
has begun in it. -/
def tabsIndented (indent : Nat) : Option Nat → List Char → Bool
  | _, [] => true
  | column, c :: run =>
    if isBreak c then tabsIndented indent (some 0) run
    else
      match column with
      | none => tabsIndented indent none run
      | some k => (c != '\t' || indent ≤ k) && tabsIndented indent (some (k + 1)) run

/-- Blanks inside a line are text. -/
theorem folded_of_breaksOf_eq_nil {run : List Char} (h : breaksOf run = []) : folded run = run := by
  unfold folded
  rw [h]

/-! ## Plain scalars

A plain scalar needs no marks around it.  It ends at a colon or a number sign that
could not be part of a word, at the marks of a flow collection inside one, and where
the lines go back to an outer indentation. -/

/-- The marks of flow collections. -/
def isFlowMark (c : Char) : Bool := ",[]\x7b\x7d".toList.contains c

/-- The marks that a plain scalar cannot start with. -/
def isIndicator (c : Char) : Bool := "-?:,[]\x7b\x7d#&*!|>'\"%@\x60".toList.contains c

/-- Whether a plain scalar may start here.  A hyphen may come first if a word goes
on behind it, and outside flow collections so may a question mark and a colon. -/
def startsPlain (flow : Bool) : List Char → Bool
  | [] => false
  | c :: rest =>
    !(isWhite c || isIndicator c) || (c == '-' && !(rest.head?.any isBlank)) ||
      (!flow && (c == '?' || c == ':') && !endsWord rest)

/-- The text up to the next blank or the next mark that ends the scalar.  In a flow
collection no mark may follow a colon. -/
def word? (flow : Bool) : List Char → Option (List Char)
  | [] => some []
  | c :: rest =>
    if isWhite c then some []
    else if flow && c == ':' && rest.head?.any (fun d => d == '?' || isFlowMark d) then none
    else if (c == ':' && endsWord rest) || (flow && isFlowMark c) then some []
    else (word? flow rest).map (c :: ·)

/-- A plain scalar: its text, whether it ended behind a line break, and the place
behind it with the blanks that follow. -/
structure Plain where
  text : List Char
  broken : Bool
  after : Cursor

/-- The words of a plain scalar.  `gap` stands between the text before and the next
word, and `broken` says whether a line ended in it. -/
def readWords (flow : Bool) (indent : Nat) :
    Nat → List Char → Bool → Cursor → Option Plain
  | 0, _, broken, c => some ⟨[], broken, c⟩
  | fuel + 1, gap, broken, c =>
    if c.atBoundary || c.rest.head? == some '#' then some ⟨[], broken, c⟩ else do
    let word ← word? flow c.rest
    let text := if word.isEmpty then [] else gap ++ word
    let behind := c.skip word.length
    let (run, after) := behind.span isWhite
    let ends := !(breaksOf run).isEmpty
    if run.isEmpty then some ⟨text, word.isEmpty && broken, behind⟩
    else if !tabsIndented indent none run then none
    else if !flow && after.column < indent then some ⟨text, ends, after⟩
    else
      let more ← readWords flow indent fuel (folded run) ends after
      some { more with text := text ++ more.text }

/-- Reads a plain scalar whose lines must stand at least at `indent` outside flow
collections. -/
def readPlain (flow : Bool) (indent : Nat) (c : Cursor) : Option Plain :=
  readWords flow indent (c.rest.length + 1) [] false c

/-! ## Quoted scalars

In single quotation marks a doubled mark stands for one, and nothing else is
special.  In double ones a backslash starts an escape; in front of a line break it
joins the lines.  Both kinds are folded, and neither may reach a line that starts
or ends a document. -/

/-- The character that a one-letter escape stands for. -/
def letterEscape? : Char → Option Char
  | '0' => some '\x00'
  | 'a' => some '\x07'
  | 'b' => some '\x08'
  | 't' | '\t' => some '\t'
  | 'n' => some '\n'
  | 'v' => some '\x0b'
  | 'f' => some '\x0c'
  | 'r' => some '\r'
  | 'e' => some '\x1b'
  | ' ' => some ' '
  | '"' => some '"'
  | '/' => some '/'
  | '\\' => some '\\'
  | 'N' => some '\u0085'
  | '_' => some '\u00a0'
  | 'L' => some '\u2028'
  | 'P' => some '\u2029'
  | _ => none

/-- The number of hexadecimal digits behind an escape letter. -/
def escapeWidth? : Char → Option Nat
  | 'x' => some 2
  | 'u' => some 4
  | 'U' => some 8
  | _ => none

/-- The character of an escape, and the number of characters behind the backslash
that the escape takes. -/
def readEscape? : List Char → Option (Char × Nat)
  | [] => none
  | letter :: rest =>
    match letterEscape? letter with
    | some c => some (c, 1)
    | none => do
      let width ← escapeWidth? letter
      let digits := rest.take width
      let n ← numberIn? 16 digits
      if digits.length = width ∧ n.isValidChar then some (Char.ofNat n, width + 1) else none

/-- Text in front of what a reader returned. -/
def ahead (text : List Char) (result : Option (List Char × Cursor)) :
    Option (List Char × Cursor) :=
  result.map fun (more, c) => (text ++ more, c)

/-- The text up to the closing quotation mark, and the place behind it.  `fuel`
bounds the number of characters. -/
def readQuotedUpTo (mark : Char) : Nat → Cursor → Option (List Char × Cursor)
  | 0, _ => none
  | fuel + 1, c =>
    match c.rest with
    | [] => none
    | x :: rest =>
      if x = mark then
        if mark = '\'' ∧ rest.head? = some '\'' then
          ahead ['\''] (readQuotedUpTo mark fuel (c.skip 2))
        else some ([], c.next)
      else if isWhite x then
        let (run, c) := c.span isWhite
        if c.atBoundary then none else ahead (folded run) (readQuotedUpTo mark fuel c)
      else if x = '\\' ∧ mark = '"' then
        if rest.head?.any isBreak then
          let (run, c) := (c.skip 2).span isWhite
          if c.atBoundary then none else ahead (breaksOf run) (readQuotedUpTo mark fuel c)
        else
          match readEscape? rest with
          | none => none
          | some (e, width) => ahead [e] (readQuotedUpTo mark fuel (c.skip (width + 1)))
      else ahead [x] (readQuotedUpTo mark fuel c.next)

/-- The text of a quoted scalar and the place behind it; the cursor stands behind
the opening mark. -/
def readQuoted (mark : Char) (c : Cursor) : Option (List Char × Cursor) :=
  readQuotedUpTo mark (c.rest.length + 1) c

/-! ## Block scalars

A block scalar is the indented lines below a header.  The header says whether the
lines are folded, what becomes of the line breaks at the end, and how deep the lines
stand; without a number their first line tells. -/

/-- What becomes of the line breaks at the end. -/
inductive Chomping where
  | strip
  | clip
  | keep
deriving DecidableEq, Repr

/-- The sign of a way of chomping. -/
def Chomping.ofSign? : Char → Option Chomping
  | '-' => some .strip
  | '+' => some .keep
  | _ => none

/-- The header of a block scalar. -/
structure BlockHeader where
  chomping : Chomping
  /-- How much deeper than their surroundings the lines stand. -/
  depth : Option Nat
deriving DecidableEq, Repr

/-- A digit of an indentation, which may not be 0; `none` if there is no digit. -/
def readDepth (c : Cursor) : Option (Option Nat × Cursor) :=
  match c.rest with
  | d :: _ =>
    match digitIn? 10 d with
    | none => some (none, c)
    | some 0 => none
    | some n => some (some n, c.next)
  | [] => some (none, c)

/-- A sign of chomping, if there is one. -/
def readChomping (c : Cursor) : Option Chomping × Cursor :=
  match c.rest.head?.bind Chomping.ofSign? with
  | some chomping => (some chomping, c.next)
  | none => (none, c)

/-- The header, sign and digit in either order, to the start of the next line. -/
def readBlockHeader (c : Cursor) : Option (BlockHeader × Cursor) := do
  let (first, c) := readChomping c
  let (depth, c) ← readDepth c
  let (second, c) := if first.isNone && depth.isSome then readChomping c else (none, c)
  let c := (c.skipWhile isBlank).skipComment
  if c.rest.head?.all isBreak then
    some (⟨(first.or second).getD .clip, depth⟩, c.next)
  else none

/-- The blanks in front of a line and the empty lines before it. -/
structure Margin where
  breaks : List Char
  /-- The deepest column that the blanks reach. -/
  deepest : Nat
  after : Cursor

/-- Skips the indentation of the next line and the empty lines before it.  Blanks
beyond `indent` are part of the line; without `indent` all blanks are indentation.
A tab may not indent. -/
def readMargin (indent : Option Nat) : Nat → Cursor → Option Margin
  | 0, _ => none
  | fuel + 1, c =>
    let spaces := (c.rest.takeWhile (· == ' ')).length
    let c := c.skip ((indent.map fun i => min spaces (i - c.column)).getD spaces)
    match c.rest with
    | [] => some ⟨[], c.column, c⟩
    | x :: _ =>
      if x = '\t' ∧ indent.all (c.column < ·) then none
      else if isBreak x then
        (readMargin indent fuel c.next).map fun m =>
          { m with breaks := x :: m.breaks, deepest := max c.column m.deepest }
      else some ⟨[], c.column, c⟩

/-- The line breaks that stay at the end: the one of the last line and those of the
empty lines behind it. -/
def Chomping.ending (chomping : Chomping) (last empty : List Char) : List Char :=
  match chomping with
  | .strip => []
  | .clip => last
  | .keep => last ++ empty

/-- What a line break and the breaks of empty lines behind it stand for in front of
another line. -/
def joint (folds : Bool) (last empty : List Char) : List Char :=
  if folds && last == ['\n'] then (if empty.isEmpty then [' '] else empty) else last ++ empty

/-- The lines of a block scalar.  `last` is the break of the line before, `empty`
those of the empty lines since, and `deeper` says whether the line before started
with a blank; lines that do are not folded. -/
def readBlockLines (folds : Bool) (chomping : Chomping) (indent : Nat) :
    Nat → List Char → List Char → Bool → Cursor → Option (List Char × Cursor)
  | 0, _, _, _, _ => none
  | fuel + 1, last, empty, deeper, c =>
    match c.rest with
    | [] => some (chomping.ending last empty, c)
    | x :: _ =>
      if c.column ≠ indent then some (chomping.ending last empty, c) else do
      let blank := isBlank x
      let (line, c) := c.span (!isBreak ·)
      let ending := c.rest.head?.toList
      let margin ← readMargin (some indent) (c.rest.length + 1) c.next
      let (more, c) ←
        readBlockLines folds chomping indent fuel ending margin.breaks blank margin.after
      some (joint (folds && !deeper && !blank) last empty ++ line ++ more, c)

/-- The text of a block scalar and the place behind it; the cursor stands behind the
mark that starts the header, and `outer` is the least column of what is nested here. -/
def readBlock (folds : Bool) (outer : Nat) (c : Cursor) : Option (List Char × Cursor) := do
  let (header, c) ← readBlockHeader c
  let fixed := header.depth.map (· + (outer - 1))
  let margin ← readMargin fixed (c.rest.length + 1) c
  let indent := fixed.getD (max 1 (max outer margin.deepest))
  readBlockLines folds header.chomping indent (c.rest.length + 1) [] margin.breaks false
    margin.after

end TextTemplate.Yaml
