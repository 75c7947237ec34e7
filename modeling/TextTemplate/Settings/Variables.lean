import TextTemplate.Error
import TextTemplate.Json.Reader
import TextTemplate.Unicode.Property
import TextTemplate.Yaml.Content

/-! # Variables from outside

`KEY=VALUE` binds a variable.  The first equals sign ends the key; the rest is read
as JSON if it is JSON and is plain text otherwise.

The variables of a run can also be loaded from a document, whose top level must be a
mapping.  A blank text and one that stands for null bind nothing. -/
namespace TextTemplate

/-! ## Assignments -/

/-- The text before the first equals sign and the text after it. -/
def splitAssignment : List Char → Option (List Char × List Char)
  | [] => none
  | c :: cs =>
    if c = '=' then some ([], cs)
    else (splitAssignment cs).map fun (key, raw) => (c :: key, raw)

/-- The value that the right-hand side of an assignment stands for. -/
def assignedValue (raw : String) : Value :=
  (Json.read? raw).getD (.string raw)

/-- The key and the value of an assignment. -/
def readAssignment (text : String) : Except Error (String × Value) :=
  match splitAssignment text.toList with
  | none => .error (.bindings (.notAssignment text))
  | some (key, raw) => .ok (String.ofList key, assignedValue (String.ofList raw))

namespace Variables

/-- Binds a variable as an assignment says. -/
def assign (vars : Variables) (text : String) : Except Error Variables :=
  (readAssignment text).map fun (key, value) => Entries.insert key value vars

end Variables

/-! ## Documents -/

/-- The name of a kind of value. -/
def Value.kind : Value → String
  | .null => "null"
  | .bool _ => "a boolean"
  | .number _ => "a number"
  | .string _ => "a string"
  | .array _ => "a list"
  | .object _ => "a mapping"

namespace Variables

/-- Whether a text holds nothing but blanks. -/
def isBlankText (text : List Char) : Bool := text.all Unicode.Property.whiteSpace.contains

/-- The variables that a value binds. -/
def ofValue : Value → Except Error Variables
  | .object entries => .ok entries
  | .null => .ok []
  | v => .error (.bindings (.notMapping v.kind))

/-- The variables that the document of a text binds. -/
def ofText (text : String) : Except Error Variables :=
  if isBlankText text.toList then .ok []
  else
    match Yaml.readValue? text with
    | some v => ofValue v
    | none => .error (.bindings .unreadable)

end Variables

end TextTemplate
