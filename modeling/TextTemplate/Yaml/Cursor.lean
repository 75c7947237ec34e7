/-! # Places in a document

The text of a document may hold the tab, line breaks and what can be printed
(`isAllowed`).  All ways of ending a line are one before reading begins, except for
the two separators that Unicode adds, which break lines and stay what they are
(`sourceText?`).  A mark of the byte order is skipped at the start of a line, where
it takes a column (`skipByteOrderMark`); elsewhere it is a character like others.

A `Cursor` is the text still to come and the place where it starts. -/
namespace TextTemplate.Yaml

/-- The characters that may stand in a document. -/
def isAllowed (c : Char) : Bool :=
  let n := c.toNat
  c == '\t' || c == '\n' || c == '\r' || (0x20 ≤ n && n ≤ 0x7e) || n == 0x85 ||
    (0xa0 ≤ n && n ≤ 0xfffd) || 0x10000 ≤ n

/-- Blanks inside a line. -/
def isBlank (c : Char) : Bool := c == ' ' || c == '\t'

/-- Line breaks, after all common ones have become the line feed. -/
def isBreak (c : Char) : Bool := c == '\n' || c == '\u2028' || c == '\u2029'

/-- Blanks and line breaks. -/
def isWhite (c : Char) : Bool := isBlank c || isBreak c

/-- Writes every common line break as a line feed. -/
def unifyBreaks : List Char → List Char
  | [] => []
  | '\r' :: '\n' :: cs => '\n' :: unifyBreaks cs
  | c :: cs => (if c = '\r' ∨ c = '\u0085' then '\n' else c) :: unifyBreaks cs

/-- The text to read, unless it holds a character that may not stand there. -/
def sourceText? (text : List Char) : Option (List Char) :=
  if text.all isAllowed then some (unifyBreaks text) else none

/-- Whether a word ends in front of this text. -/
def endsWord : List Char → Bool
  | [] => true
  | c :: _ => isWhite c

/-- A place in a document: the text from there on, how many bytes lie before it, and
its line and column. -/
structure Cursor where
  rest : List Char
  offset : Nat
  line : Nat
  column : Nat
deriving DecidableEq, Repr

namespace Cursor

/-- The start of a text. -/
def start (text : List Char) : Cursor := ⟨text, 0, 0, 0⟩

/-- The place behind the next character. -/
def next : Cursor → Cursor
  | ⟨[], offset, line, column⟩ => ⟨[], offset, line, column⟩
  | ⟨c :: rest, offset, line, column⟩ =>
    if isBreak c then ⟨rest, offset + c.utf8Size, line + 1, 0⟩
    else ⟨rest, offset + c.utf8Size, line, column + 1⟩

/-- The place a number of characters further on. -/
def skip : Nat → Cursor → Cursor
  | 0, c => c
  | n + 1, c => skip n c.next

/-- The characters in front that pass a test, and the place behind them. -/
def span (test : Char → Bool) (c : Cursor) : List Char × Cursor :=
  let taken := c.rest.takeWhile test
  (taken, skip taken.length c)

/-- The place behind the characters in front that pass a test. -/
def skipWhile (test : Char → Bool) (c : Cursor) : Cursor := (c.span test).2

/-- The place behind a mark of the byte order, if one starts the line. -/
def skipByteOrderMark (c : Cursor) : Cursor :=
  if c.column == 0 && c.rest.head? == some '\ufeff' then c.next else c

/-- The place behind a comment, if one starts here, at the end of its line. -/
def skipComment (c : Cursor) : Cursor :=
  match c.rest with
  | '#' :: _ => c.skipWhile (!isBreak ·)
  | _ => c

/-- Whether the line at hand starts with three of a character as a word. -/
def atMarker (mark : Char) (c : Cursor) : Bool :=
  c.column == 0 && c.rest.take 3 == [mark, mark, mark] && endsWord (c.rest.drop 3)

/-- Whether a document starts or ends here. -/
def atBoundary (c : Cursor) : Bool := c.atMarker '-' || c.atMarker '.'

@[simp] theorem next_rest (c : Cursor) : c.next.rest = c.rest.tail := by
  obtain ⟨rest, offset, line, column⟩ := c
  cases rest with
  | nil => rfl
  | cons x rest => rw [next]; split <;> rfl

/-- Going on by `n` characters drops them from the text. -/
@[simp] theorem skip_rest (n : Nat) (c : Cursor) : (c.skip n).rest = c.rest.drop n := by
  induction n generalizing c with
  | zero => rfl
  | succ n ih => rw [skip, ih, next_rest, List.drop_tail]

end Cursor
end TextTemplate.Yaml
