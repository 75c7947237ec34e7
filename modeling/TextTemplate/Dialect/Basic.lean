import TextTemplate.Quoting

/-! # Dialects

A dialect fixes what the delimiters of a template look like and how names and
parameters may be quoted.  Delimiters are recognised by matchers.  A matcher says
where in the text at hand its first match lies and how long it is; reading a
template uses the length alone, so a matcher is meant to match at the front of the
text or not at all (`Matcher.Anchored`). -/
namespace TextTemplate

/-- Where a match lies, in bytes from the front of the text. -/
structure Found where
  start : Nat
  length : Nat
deriving DecidableEq, Repr

/-- A way of recognising a delimiter, with the text that describes it. -/
structure Matcher where
  source : String
  find : List Char → Option Found

namespace Matcher

/-- The matcher of a pattern. -/
def ofPattern (p : Pattern) : Matcher :=
  ⟨p.source, fun text => (p.find? text).map fun m => ⟨m.start, m.length⟩⟩

/-- The length in bytes of a match, 0 if there is none. -/
def width (m : Matcher) (text : List Char) : Nat :=
  match m.find text with
  | some found => found.length
  | none => 0

/-- Whatever text is matched is a piece of the front of the text at hand.  A match
without text may lie anywhere, because it counts for none. -/
def Anchored (m : Matcher) : Prop :=
  ∀ text found, m.find text = some found → 0 < found.length →
    found.start = 0 ∧ ∃ taken rest, Text.cut? found.length text = some (taken, rest)

end Matcher

/-- The delimiters of a placeholder. -/
inductive Delimiter where
  | variableStart
  | variableEnd
  | pipeStart
  | parameterStart
deriving DecidableEq, Repr

/-- The delimiters and the quoting of a template language. -/
structure Dialect where
  escape : Matcher
  variableStart : Matcher
  variableEnd : Matcher
  pipeStart : Matcher
  parameterStart : Matcher
  /-- Quoting of variable and pipe names. -/
  names : Quoting
  /-- Quoting of pipe parameters. -/
  parameters : Quoting

namespace Dialect

/-- The matcher of a delimiter. -/
def matcher (d : Dialect) : Delimiter → Matcher
  | .variableStart => d.variableStart
  | .variableEnd => d.variableEnd
  | .pipeStart => d.pipeStart
  | .parameterStart => d.parameterStart

/-- The escape and all delimiters are matched at the front of the text only. -/
def Anchored (d : Dialect) : Prop :=
  d.escape.Anchored ∧ ∀ δ, (d.matcher δ).Anchored

end Dialect
end TextTemplate
