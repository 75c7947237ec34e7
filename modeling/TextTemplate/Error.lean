import TextTemplate.Pattern.Reader

/-! # Errors

Reading and rendering a template in a given dialect does not fail for want of a
well-formed template.  What can fail is building a dialect and loading settings,
variables and files.  `Error.message` words each cause. -/
namespace TextTemplate

/-- The options of a dialect that hold a pattern. -/
inductive PatternOption where
  | escape
  | variableStart
  | variableEnd
  | pipeStart
  | parameterStart
  | quotedString
deriving DecidableEq, Repr

/-- The name of an option, as settings spell it. -/
def PatternOption.name : PatternOption → String
  | .escape => "escape"
  | .variableStart => "variable_start"
  | .variableEnd => "variable_end"
  | .pipeStart => "pipe_start"
  | .parameterStart => "pipe_parameter_start"
  | .quotedString => "quoted_string"

/-- Why variables cannot be taken from a text. -/
inductive VariablesError where
  /-- The text is no document. -/
  | unreadable
  /-- The document is not a mapping but something else, named here. -/
  | notMapping (kind : String)
  /-- An assignment without an equals sign. -/
  | notAssignment (text : String)
deriving DecidableEq, Repr

/-- Why a file cannot be read as text. -/
inductive FileError where
  | notFound
  | notText
deriving DecidableEq, Repr

/-- The wording of a file error. -/
def FileError.message : FileError → String
  | .notFound => "No such file or directory (os error 2)"
  | .notText => "stream did not contain valid UTF-8"

/-- What can fail. -/
inductive Error where
  | invalidPattern (option : PatternOption) (cause : Pattern.PatternError)
  | settings
  | bindings (cause : VariablesError)
  | file (path : String) (cause : FileError)
deriving DecidableEq, Repr

/-- The wording of an error. -/
def Error.message : Error → String
  | .invalidPattern option _ => "invalid " ++ option.name ++ " pattern"
  | .settings => "invalid settings"
  | .bindings .unreadable => "invalid variables"
  | .bindings (.notMapping kind) =>
    "invalid variables: expected a mapping at the top level, found " ++ kind
  | .bindings (.notAssignment text) =>
    "invalid variables: expected KEY=VALUE, got '" ++ text ++ "'"
  | .file path cause => "could not read " ++ path ++ ": " ++ cause.message

end TextTemplate
