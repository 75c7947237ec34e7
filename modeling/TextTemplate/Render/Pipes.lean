import TextTemplate.Unicode.Casing
import TextTemplate.Value

/-! # Pipes

A pipe turns text into text, given its parameters.  These are the built-in ones:
percent-encoding, trimming, upper and lower case, a default for empty text, and a
choice by count.  A registry finds pipes by name; registering a name again replaces
its pipe. -/
namespace TextTemplate

/-- What a pipe does: text and parameters to text. -/
abbrev PipeFunction := String → List String → String

namespace Pipes

/-- Whether a byte is written as itself in a percent-encoded text: letters, digits,
hyphen, full stop, low line and tilde. -/
def isUnreserved (b : UInt8) : Bool :=
  let c := Char.ofNat b.toNat
  c.isAlphanum || c == '-' || c == '.' || c == '_' || c == '~'

/-- An upper-case hexadecimal digit. -/
def upperHex (n : Nat) : Char := (Nat.digitChar n).toUpper

/-- A byte in a percent-encoded text. -/
def encodeByte (b : UInt8) : List Char :=
  if isUnreserved b then [Char.ofNat b.toNat]
  else ['%', upperHex (b.toNat / 16), upperHex (b.toNat % 16)]

/-- Percent-encodes everything but unreserved characters. -/
def encode : PipeFunction := fun value _ =>
  String.ofList (value.toUTF8.data.toList.flatMap encodeByte)

/-- A text without the blanks at its ends. -/
def trimBlanks (cs : List Char) : List Char :=
  let blank := Unicode.Property.whiteSpace.contains
  ((cs.dropWhile blank).reverse.dropWhile blank).reverse

/-- Takes the blanks off both ends. -/
def trim : PipeFunction := fun value _ => String.ofList (trimBlanks value.toList)

/-- Upper case. -/
def upper : PipeFunction := fun value _ => String.ofList (Unicode.Casing.upper value.toList)

/-- Lower case. -/
def lower : PipeFunction := fun value _ => String.ofList (Unicode.Casing.lower value.toList)

/-- The first parameter in place of empty text. -/
def default : PipeFunction := fun value parameters =>
  match parameters with
  | fallback :: _ => if value.isEmpty then fallback else value
  | [] => value

/-- The parameter that a count selects.  The parameters are the texts for one, for
other counts and for zero; without the last, zero is an other count, and a single
text serves all counts. -/
def branch? (count : String) : List String → Option String
  | [] => none
  | [only] => some only
  | [one, other] => some (if count = "1" then one else other)
  | one :: other :: zero :: _ =>
    some (if count = "1" then one else if count = "0" then zero else other)

/-- Replaces every number sign by a count. -/
def fillCount (count : String) (text : String) : String :=
  String.ofList (text.toList.flatMap fun c => if c = '#' then count.toList else [c])

/-- Chooses a parameter by the count that the value is; empty text counts as zero. -/
def plural : PipeFunction := fun value parameters =>
  let count := if value.isEmpty then "0" else value
  match branch? count parameters with
  | some branch => fillCount count branch
  | none => value

end Pipes

/-- Pipes by name. -/
structure Registry where
  entries : List (String × PipeFunction)

namespace Registry

/-- No pipes. -/
def empty : Registry := ⟨[]⟩

/-- Registers a pipe under a name. -/
def register (r : Registry) (name : String) (pipe : PipeFunction) : Registry :=
  ⟨Entries.insert name pipe r.entries⟩

/-- The pipe of a name. -/
def get? (r : Registry) (name : String) : Option PipeFunction :=
  Entries.get? r.entries name

/-- Whether a name has a pipe. -/
def contains (r : Registry) (name : String) : Bool := (r.get? name).isSome

/-- The names in order. -/
def names (r : Registry) : List String := r.entries.map (·.1)

/-- The built-in pipes. -/
def builtins : Registry :=
  empty
    |>.register "encode" Pipes.encode
    |>.register "trim" Pipes.trim
    |>.register "upper" Pipes.upper
    |>.register "lower" Pipes.lower
    |>.register "default" Pipes.default
    |>.register "plural" Pipes.plural

/-- A registered name has the pipe it was registered with last. -/
theorem get?_register (r : Registry) (name : String) (pipe : PipeFunction) (other : String) :
    (r.register name pipe).get? other = if name == other then some pipe else r.get? other :=
  Entries.get?_insert name pipe r.entries other

end Registry
end TextTemplate
