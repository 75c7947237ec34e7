/-! # Template trees

A parsed template is literal text with variables in between.  A variable has a
name and the pipes its text is sent through, and a pipe has a name and
parameters.  This module holds the three types, the order in which a tree is
read (`Template.parts`) and the tree of two texts written one after the other
(`Template.append`). -/
namespace TextTemplate

/-- A named transformation with its parameters. -/
structure Pipe where
  name : String
  parameters : List String
deriving DecidableEq, Repr, Inhabited

/-- A placeholder: a variable name and the pipes applied to its text, in order. -/
structure Variable where
  name : String
  pipes : List Pipe
deriving DecidableEq, Repr, Inhabited

/-- Literal texts and the variables between them.  A template that was read from
text has one literal more than it has variables. -/
structure Template where
  literals : List String
  placeholders : List Variable
deriving DecidableEq, Repr, Inhabited

/-- One piece of a template in reading order. -/
inductive Part where
  | literal (text : String)
  | variable (v : Variable)
deriving DecidableEq, Repr

namespace Template

/-- The tree with nothing in it, not even an empty literal. -/
def nothing : Template := ⟨[], []⟩

/-- A tree as text gives it: one literal before, between and after the variables. -/
def WellFormed (t : Template) : Prop :=
  t.literals.length = t.placeholders.length + 1

instance (t : Template) : Decidable t.WellFormed :=
  inferInstanceAs (Decidable (_ = _))

/-- Each literal is preceded by the next variable while there are any. -/
def interleave : List String → List Variable → List Part
  | [], _ => []
  | l :: ls, [] => .literal l :: interleave ls []
  | l :: ls, v :: vs => .variable v :: .literal l :: interleave ls vs

/-- The pieces in reading order.  The first literal comes first; variables that
have no literal after them are left out. -/
def parts : Template → List Part
  | ⟨[], _⟩ => []
  | ⟨l :: ls, vs⟩ => .literal l :: interleave ls vs

/-- The names of the variables in order. -/
def variableNames (t : Template) : List String :=
  t.placeholders.map (·.name)

/-- Whether the template refers to any variable. -/
def hasVariables (t : Template) : Bool :=
  !t.placeholders.isEmpty

/-- The last literal of the first list and the first of the second become one. -/
def joinLiterals : List String → List String → List String
  | [], ms => ms
  | [l], [] => [l]
  | [l], m :: ms => (l ++ m) :: ms
  | l :: k :: ls, ms => l :: joinLiterals (k :: ls) ms

/-- The tree of one text followed by another. -/
def append (s t : Template) : Template :=
  ⟨joinLiterals s.literals t.literals, s.placeholders ++ t.placeholders⟩

instance : Append Template := ⟨append⟩

end Template
end TextTemplate
