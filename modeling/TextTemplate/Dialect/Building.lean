import TextTemplate.Dialect.Standard
import TextTemplate.Error

/-! # Building dialects

A dialect is built from the standard one by steps, each of which replaces a pattern
or a way of quoting (`Dialect.apply`, `Dialect.build`).  The first step whose
pattern cannot be read fails the whole. -/
namespace TextTemplate

/-- A change to a dialect. -/
inductive DialectStep where
  | escape (pattern : String)
  | delimiter (d : Delimiter) (pattern : String)
  /-- One pattern for quoting names and parameters. -/
  | quotedText (pattern : String)
  | names (q : Quoting)
  | parameters (q : Quoting)

/-- The option that holds the pattern of a delimiter. -/
def Delimiter.option : Delimiter → PatternOption
  | .variableStart => .variableStart
  | .variableEnd => .variableEnd
  | .pipeStart => .pipeStart
  | .parameterStart => .parameterStart

/-- Reads the pattern of an option; it may match only where it is tried. -/
def readOption (option : PatternOption) (text : String) : Except Error Pattern :=
  (Pattern.readAnchored text).mapError (.invalidPattern option)

/-- The way of quoting by a pattern. -/
def Quoting.ofText (text : String) : Except Error Quoting :=
  (readOption .quotedString text).map .pattern

namespace Dialect

/-- Replaces the matcher of a delimiter. -/
def withDelimiter (d : Dialect) (δ : Delimiter) (m : Matcher) : Dialect :=
  match δ with
  | .variableStart => { d with variableStart := m }
  | .variableEnd => { d with variableEnd := m }
  | .pipeStart => { d with pipeStart := m }
  | .parameterStart => { d with parameterStart := m }

/-- Makes one change. -/
def apply (d : Dialect) : DialectStep → Except Error Dialect
  | .escape text => (readOption .escape text).map fun p => { d with escape := .ofPattern p }
  | .delimiter δ text =>
    (readOption δ.option text).map fun p => d.withDelimiter δ (.ofPattern p)
  | .quotedText text => (Quoting.ofText text).map fun q => { d with names := q, parameters := q }
  | .names q => .ok { d with names := q }
  | .parameters q => .ok { d with parameters := q }

/-- Makes changes in order. -/
def applyAll (d : Dialect) (steps : List DialectStep) : Except Error Dialect :=
  steps.foldlM apply d

/-- The dialect that steps make of the standard one. -/
def build (steps : List DialectStep) : Except Error Dialect :=
  standard.applyAll steps

end Dialect
end TextTemplate
