import TextTemplate.Scan.Span
import TextTemplate.Tree

/-! # Reading a template

A scanner goes over a text once, span by span.  It counts the bytes behind it, holds
the text before it, what is finished of the tree, and for each level the piece that
is open there.  Nothing but the order of the operations keeps the open pieces and the
level in step, so every operation that needs a piece says what to take where there is
none (`Fallback`).

`Scanner.step` takes one span, `Scanner.run` takes spans until the text is used up,
and `Dialect.parse` starts a scanner at a text. -/
namespace TextTemplate

namespace Level

/-- How many levels lie around a level. -/
def depth : Level → Nat
  | .literal => 0
  | .variable => 1
  | .pipe => 2
  | .parameter => 3

instance : LE Level := ⟨fun a b => a.depth ≤ b.depth⟩

instance (a b : Level) : Decidable (a ≤ b) := inferInstanceAs (Decidable (a.depth ≤ b.depth))

theorem le_iff {a b : Level} : a ≤ b ↔ a.depth ≤ b.depth := Iff.rfl

end Level

/-- What an operation takes for a piece that should be open and is not. -/
structure Fallback where
  forVariable : Variable
  forPipe : Pipe
  forParameter : String

/-- Pieces with nothing in them. -/
def Fallback.blank : Fallback := ⟨⟨"", []⟩, ⟨"", []⟩, ""⟩

/-- A template that is being read. -/
structure Scanner where
  /-- The bytes read. -/
  pos : Nat
  /-- The text not read yet. -/
  rest : List Char
  level : Level
  /-- The literals and variables that are finished. -/
  finished : Template
  literal : String
  openVariable : Option Variable
  openPipe : Option Pipe
  openParameter : Option String
deriving DecidableEq, Repr

namespace Scanner

/-- Nothing of the text is read. -/
def start (text : List Char) : Scanner :=
  ⟨0, text, .literal, .nothing, "", none, none, none⟩

/-- Adds text to the open piece of the level. -/
def append (f : Fallback) (s : Scanner) (text : String) : Scanner :=
  match s.level with
  | .literal => { s with literal := s.literal ++ text }
  | .variable =>
    let v := s.openVariable.getD f.forVariable
    { s with openVariable := some { v with name := v.name ++ text } }
  | .pipe =>
    let p := s.openPipe.getD f.forPipe
    { s with openPipe := some { p with name := p.name ++ text } }
  | .parameter => { s with openParameter := some (s.openParameter.getD f.forParameter ++ text) }

/-- Puts the open parameter, if there is one, into the open pipe. -/
def closeParameter (f : Fallback) (s : Scanner) : Scanner :=
  match s.openParameter with
  | none => s
  | some text =>
    let p := s.openPipe.getD f.forPipe
    { s with openParameter := none, openPipe := some { p with parameters := p.parameters ++ [text] } }

/-- Puts the open pipe, if there is one, into the open variable. -/
def closePipe (f : Fallback) (s : Scanner) : Scanner :=
  match s.openPipe with
  | none => s
  | some p =>
    let v := s.openVariable.getD f.forVariable
    { s with openPipe := none, openVariable := some { v with pipes := v.pipes ++ [p] } }

/-- Puts the open variable, if there is one, into the tree. -/
def closeVariable (s : Scanner) : Scanner :=
  match s.openVariable with
  | none => s
  | some v =>
    { s with
      openVariable := none
      finished := { s.finished with placeholders := s.finished.placeholders ++ [v] } }

/-- Closes what is open, the innermost first, and goes back to literal text. -/
def collapse (f : Fallback) (s : Scanner) : Scanner :=
  { ((s.closeParameter f).closePipe f).closeVariable with level := .literal }

/-- Enters the level behind a delimiter. -/
def enter (f : Fallback) (s : Scanner) : Delimiter → Scanner
  | .variableStart =>
    { s with
      finished := { s.finished with literals := s.finished.literals ++ [s.literal] }
      literal := "", openVariable := some ⟨"", []⟩, level := .variable }
  | .variableEnd => s.collapse f
  | .pipeStart =>
    let t := if .parameter ≤ s.level then s.closeParameter f else s
    let t := if .pipe ≤ s.level then t.closePipe f else t
    { t with openPipe := some ⟨"", []⟩, level := .pipe }
  | .parameterStart =>
    let t := if .parameter ≤ s.level then s.closeParameter f else s
    { t with openParameter := some "", level := .parameter }

/-- Adds a span and leaves `rest` to be read. -/
def take (f : Fallback) (s : Scanner) (span : Span) (rest : List Char) : Scanner :=
  let s := { s with pos := s.pos + Text.width span.text, rest := rest }
  match span with
  | .delimiter δ _ => s.enter f δ
  | .escaped _ none => s
  | span => s.append f (String.ofList span.content)

/-- Takes the first span of the text that is left, if any is left. -/
def step (d : Dialect) (f : Fallback) (s : Scanner) :
    Option (Except ScanError (Span × Scanner)) :=
  match s.rest with
  | [] => none
  | c :: cs => some ((d.next s.level c cs).map fun (span, rest) => (span, s.take f span rest))

/-- The tree of what has been read; what is open is closed. -/
def finish (f : Fallback) (s : Scanner) : Template :=
  let s := s.collapse f
  { s.finished with literals := s.finished.literals ++ [s.literal] }

@[simp] theorem append_rest (f : Fallback) (s : Scanner) (text : String) :
    (s.append f text).rest = s.rest := by
  unfold append; split <;> rfl

@[simp] theorem closeParameter_rest (f : Fallback) (s : Scanner) :
    (s.closeParameter f).rest = s.rest := by
  unfold closeParameter; split <;> rfl

@[simp] theorem closePipe_rest (f : Fallback) (s : Scanner) : (s.closePipe f).rest = s.rest := by
  unfold closePipe; split <;> rfl

@[simp] theorem closeVariable_rest (s : Scanner) : s.closeVariable.rest = s.rest := by
  unfold closeVariable; split <;> rfl

@[simp] theorem enter_rest (f : Fallback) (s : Scanner) (δ : Delimiter) :
    (s.enter f δ).rest = s.rest := by
  cases δ with
  | variableStart => rfl
  | variableEnd => simp [enter, collapse]
  | pipeStart => simp only [enter]; split <;> split <;> simp
  | parameterStart => simp only [enter]; split <;> simp

@[simp] theorem take_rest (f : Fallback) (s : Scanner) (span : Span) (rest : List Char) :
    (s.take f span rest).rest = rest := by
  unfold take; split <;> simp

/-- A step takes the first span of the text that is left. -/
theorem step_eq_ok_iff {d : Dialect} {f : Fallback} {s t : Scanner} {span : Span} :
    s.step d f = some (.ok (span, t)) ↔
      ∃ c cs rest, s.rest = c :: cs ∧ d.next s.level c cs = .ok (span, rest) ∧
        t = s.take f span rest := by
  unfold step
  cases hr : s.rest with
  | nil => simp
  | cons c cs =>
    simp only [Option.some.injEq, List.cons.injEq, map_eq_ok_iff]
    constructor
    · rintro ⟨⟨span', rest⟩, hnext, heq⟩
      cases heq
      exact ⟨c, cs, rest, ⟨rfl, rfl⟩, hnext, rfl⟩
    · rintro ⟨_, _, rest, ⟨rfl, rfl⟩, hnext, rfl⟩
      exact ⟨(span, rest), hnext, rfl⟩

/-- A step leaves less text. -/
theorem length_lt_of_step {d : Dialect} {f : Fallback} {s t : Scanner} {span : Span}
    (h : s.step d f = some (.ok (span, t))) : t.rest.length < s.rest.length := by
  obtain ⟨c, cs, rest, hr, hn, rfl⟩ := step_eq_ok_iff.mp h
  rw [hr, take_rest]
  exact Dialect.length_lt_of_next hn

/-- Takes spans until no text is left. -/
def run (d : Dialect) (f : Fallback) (s : Scanner) : Except ScanError Template :=
  match h : s.step d f with
  | none => .ok (s.finish f)
  | some (.error e) => .error e
  | some (.ok (_, t)) =>
    have := length_lt_of_step h
    run d f t
termination_by s.rest.length

theorem run_eq (d : Dialect) (f : Fallback) (s : Scanner) :
    s.run d f =
      match s.step d f with
      | none => .ok (s.finish f)
      | some (.error e) => .error e
      | some (.ok (_, t)) => t.run d f := by
  rw [run]
  split <;> rename_i h <;> simp [h]

end Scanner

namespace Dialect

/-- Reads a template. -/
def parse (d : Dialect) (text : String) : Except ScanError Template :=
  (Scanner.start text.toList).run d .blank

end Dialect
end TextTemplate
