import TextTemplate.Scan.Span
import TextTemplate.Tree

/-! # From spans to trees

A draft is a tree that is still being read: what is finished, and the piece at the
end that further text is added to.  Spans are added one by one (`Draft.add`), and
`Draft.finish` closes what is open. -/
namespace TextTemplate

/-- The piece that is being read, with the pieces around it. -/
inductive OpenPiece where
  | literal (text : String)
  | variable (v : Variable)
  | pipe (v : Variable) (p : Pipe)
  | parameter (v : Variable) (p : Pipe) (text : String)
deriving DecidableEq, Repr

/-- A template that is being read: finished literals and variables, and the piece
that is open. -/
structure Draft where
  literals : List String
  placeholders : List Variable
  piece : OpenPiece
deriving DecidableEq, Repr

namespace OpenPiece

/-- The level that the piece belongs to. -/
def level : OpenPiece → Level
  | .literal _ => .literal
  | .variable _ => .variable
  | .pipe _ _ => .pipe
  | .parameter _ _ _ => .parameter

/-- Adds text at the end of the piece. -/
def append (text : String) : OpenPiece → OpenPiece
  | .literal t => .literal (t ++ text)
  | .variable v => .variable { v with name := v.name ++ text }
  | .pipe v p => .pipe v { p with name := p.name ++ text }
  | .parameter v p t => .parameter v p (t ++ text)

/-- Closes the open parameter, if there is one. -/
def closeParameter : OpenPiece → OpenPiece
  | .parameter v p t => .pipe v { p with parameters := p.parameters ++ [t] }
  | piece => piece

/-- Closes the open pipe, if there is one, and the parameter in it. -/
def closePipe (piece : OpenPiece) : OpenPiece :=
  match piece.closeParameter with
  | .pipe v p => .variable { v with pipes := v.pipes ++ [p] }
  | piece => piece

end OpenPiece

namespace Draft

/-- Nothing read yet. -/
def start : Draft := ⟨[], [], .literal ""⟩

/-- The level of the open piece. -/
def level (d : Draft) : Level := d.piece.level

/-- Closes everything down to literal text. -/
def collapse (d : Draft) : Draft :=
  match d.piece.closePipe with
  | .variable v => ⟨d.literals, d.placeholders ++ [v], .literal ""⟩
  | piece => { d with piece := piece }

/-- Enters the level behind a delimiter.  A delimiter that has no meaning where the
draft stands changes nothing. -/
def enter (d : Draft) : Delimiter → Draft
  | .variableStart =>
    match d.piece with
    | .literal t => ⟨d.literals ++ [t], d.placeholders, .variable ⟨"", []⟩⟩
    | _ => d
  | .variableEnd => d.collapse
  | .pipeStart =>
    match d.piece.closePipe with
    | .variable v => { d with piece := .pipe v ⟨"", []⟩ }
    | _ => d
  | .parameterStart =>
    match d.piece.closeParameter with
    | .pipe v p => { d with piece := .parameter v p "" }
    | _ => d

/-- Adds a span. -/
def add (d : Draft) : Span → Draft
  | .delimiter δ _ => d.enter δ
  | s => { d with piece := d.piece.append (String.ofList s.content) }

/-- The tree of what has been read; what is open is closed. -/
def finish (d : Draft) : Template :=
  match d.collapse with
  | ⟨literals, placeholders, .literal t⟩ => ⟨literals ++ [t], placeholders⟩
  | ⟨literals, placeholders, _⟩ => ⟨literals, placeholders⟩

end Draft

namespace Template

/-- The tree that spans make. -/
def ofSpans (spans : List Span) : Template :=
  (spans.foldl Draft.add Draft.start).finish

end Template

end TextTemplate
