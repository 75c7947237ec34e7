import TextTemplate.Pattern.Matching
import TextTemplate.Pattern.Reader

/-! # Patterns ready for use

A pattern keeps the text it was read from.  Callers write patterns without an
anchor; `anchoredText` puts one in front, and a group around what the caller wrote.
The text is spliced in as it stands, so a caller who closes the group early can
still write an alternative that is not anchored: `x)|(?:y` becomes
`^(?:x)|(?:y)`. -/
namespace TextTemplate

/-- A pattern with its text, its tree and the number of its groups. -/
structure Pattern where
  source : String
  node : Pattern.Node
  groups : Nat
deriving DecidableEq, Repr, Inhabited

namespace Pattern

/-- Reads a pattern as it stands. -/
def read (source : String) : Except PatternError Pattern :=
  (readPattern source.toList).map fun (node, groups) => ⟨source, node, groups⟩

/-- The text of a pattern that may match only where it is tried. -/
def anchoredText (text : String) : String := "^(?:" ++ text ++ ")"

/-- Reads a pattern that may match only where it is tried. -/
def readAnchored (text : String) : Except PatternError Pattern :=
  read (anchoredText text)

/-- A pattern that reading gives, in a form that can be decided by evaluation. -/
theorem read_eq_ok {source : String} {p : Pattern} (h : (read source).toOption = some p) :
    read source = .ok p := by
  cases hr : read source with
  | error e => rw [hr] at h; simp [Except.toOption] at h
  | ok q => rw [hr] at h; simpa [Except.toOption] using h

/-- The first match in a text.  A pattern that is anchored throughout is tried at
the start alone. -/
def find? (p : Pattern) (text : List Char) : Option Match :=
  if p.node.anchored then matchHere p.node none 0 text else search p.node none 0 text

/-- Whether the pattern matches anywhere in a text. -/
def isMatch (p : Pattern) (text : List Char) : Bool := (p.find? text).isSome

/-- The texts of the groups from `first` on that took part in a match, in the
order of their numbers. -/
def groupTexts (p : Pattern) (first : Nat) (m : Match) : List (List Char) :=
  ((List.range (p.groups + 1)).drop first).filterMap m.group?

end Pattern
end TextTemplate
