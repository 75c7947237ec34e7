import TextTemplate.CommandLine.Arguments
import TextTemplate.Json.Printer
import TextTemplate.Render.Evaluate
import TextTemplate.Settings.DialectSettings
import TextTemplate.Settings.Variables

/-! # Running a command line

A run goes through stages: the text of the template, the dialect, the tree, and then
either the tree is written out or the variables are collected and the template is
rendered.  The first stage that fails decides the error; stages behind it are not
entered, so that a file of variables is not even read where only the tree is asked
for. -/
namespace TextTemplate.CommandLine

/-- What a run can read: the standard input, and files by their paths. -/
structure Inputs where
  standardInput : ByteArray
  file? : String → Option ByteArray

/-- The text that bytes encode. -/
def decode (bytes : ByteArray) : Except FileError String :=
  match String.fromUTF8? bytes with
  | some text => .ok text
  | none => .error .notText

/-- The text of a file. -/
def Inputs.read (inputs : Inputs) (path : String) : Except FileError String :=
  match inputs.file? path with
  | none => .error .notFound
  | some bytes => decode bytes

/-- Why a run fails. -/
inductive Failure where
  | templateFile (path : String) (cause : FileError)
  | standardInput (cause : FileError)
  | settings (path : String) (cause : Error)
  | scan (cause : ScanError)
  | bindings (path : String) (cause : Error)
  | assignment (cause : Error)
deriving DecidableEq, Repr

/-- What the run was about to do when it failed, if that is not plain from the
cause. -/
def Failure.context? : Failure → Option String
  | .templateFile path _ => some ("read template " ++ path)
  | .standardInput _ => some "read template from stdin"
  | .settings path _ => some ("load syntax settings " ++ path)
  | .bindings path _ => some ("load variables " ++ path)
  | .scan _ => none
  | .assignment _ => none

/-- The wording of the cause. -/
def Failure.causeMessage : Failure → String
  | .templateFile _ cause | .standardInput cause => cause.message
  | .settings _ cause | .bindings _ cause | .assignment cause => cause.message
  | .scan .insideCharacter => "a delimiter ends inside a character"

namespace Arguments

/-- The text of the template: the argument, or else the file, or else the standard
input. -/
def templateText (a : Arguments) (inputs : Inputs) : Except Failure String :=
  match a.template, a.file with
  | some text, _ => .ok text
  | .none, some path => (inputs.read path).mapError (.templateFile path)
  | .none, .none => (decode inputs.standardInput).mapError .standardInput

/-- The dialect that a file of settings describes. -/
def loadDialect (inputs : Inputs) (path : String) : Except Error Dialect := do
  let text ← (inputs.read path).mapError (.file path)
  let settings ← DialectSettings.ofText text
  settings.toDialect

/-- The dialect: that of the settings, or else the standard one. -/
def dialect (a : Arguments) (inputs : Inputs) : Except Failure Dialect :=
  match a.config with
  | some path => (loadDialect inputs path).mapError (.settings path)
  | .none => .ok .standard

/-- The variables that a file binds. -/
def loadVariables (inputs : Inputs) (path : String) : Except Error Variables := do
  let text ← (inputs.read path).mapError (.file path)
  Variables.ofText text

/-- The variables that are loaded. -/
def loaded (a : Arguments) (inputs : Inputs) : Except Failure Variables :=
  match a.vars with
  | some path => (loadVariables inputs path).mapError (.bindings path)
  | .none => .ok []

/-- Makes assignments in order. -/
def assignAll (vars : Variables) (assignments : List String) : Except Failure Variables :=
  assignments.foldlM (fun vars text => (Variables.assign vars text).mapError .assignment) vars

/-- The variables: those that are loaded, and then the assignments. -/
def bindings (a : Arguments) (inputs : Inputs) : Except Failure Variables := do
  assignAll (← a.loaded inputs) a.assignments

/-- The tree of a template as it is printed. -/
def dumped (t : Template) : String := String.ofList (Json.prettyTemplate t ++ ['\n'])

/-- What a run prints. -/
def run (a : Arguments) (inputs : Inputs) : Except Failure String := do
  let text ← a.templateText inputs
  let d ← a.dialect inputs
  let template ← (d.parse text).mapError .scan
  if a.dump then return dumped template
  let vars ← a.bindings inputs
  return template.render vars .builtins

end Arguments
end TextTemplate.CommandLine
