import TextTemplate.Number.Text
import TextTemplate.Value
import TextTemplate.Yaml.Node

/-! # Resolving scalars

A plain scalar without a tag stands for what it looks like: nothing, a truth value, a
number, or else itself.  Quoted and block scalars are text.  A tag asks for one kind
of value and fails on a scalar that does not look like it; a private name that cannot
be read asks for nothing.

Whole numbers are 64 bits wide.  One that needs more fails up to 128 bits, and is a
double-precision number beyond. -/
namespace TextTemplate.Yaml

/-- The words for nothing. -/
def isNullWord (text : List Char) : Bool :=
  ["null", "Null", "NULL", "~"].any (·.toList == text)

/-- The truth value that a word stands for. -/
def truth? (text : List Char) : Option Bool :=
  if ["true", "True", "TRUE"].any (·.toList == text) then some true
  else if ["false", "False", "FALSE"].any (·.toList == text) then some false
  else none

/-! ## Whole numbers -/

/-- Whether the text is digits that start with a zero they do not need. -/
def isPadded (text : List Char) : Bool :=
  let digits := match text with
    | '-' :: rest | '+' :: rest => rest
    | rest => rest
  1 < digits.length && digits.head? == some '0' && digits.all Char.isDigit

/-- At least one digit of a base. -/
def magnitudeIn? (base : Nat) (digits : List Char) : Option Nat :=
  if digits.isEmpty then none else numberIn? base digits

/-- A number without a sign; a letter behind a zero states the base. -/
def magnitude? : List Char → Option Nat
  | '0' :: 'x' :: digits => magnitudeIn? 16 digits
  | '0' :: 'o' :: digits => magnitudeIn? 8 digits
  | '0' :: 'b' :: digits => magnitudeIn? 2 digits
  | digits => if isPadded digits then none else magnitudeIn? 10 digits

/-- The whole number that a text writes, however long. -/
def whole? : List Char → Option Int
  | '-' :: rest => (magnitude? rest).map fun n => -(n : Int)
  | '+' :: rest => (magnitude? rest).map Int.ofNat
  | text => (magnitude? text).map Int.ofNat

/-- Whether a number fits a signed or an unsigned type of a width. -/
def fitsWord (width : Nat) (n : Int) : Bool :=
  -Int.ofNat (1 <<< (width - 1)) ≤ n && n < Int.ofNat (1 <<< width)

/-! ## Double-precision numbers -/

/-- The digits of a number and the power of ten of the last one: digits with a point
among them or at an end, and an exponent if there is one. -/
def decimal? (text : List Char) : Option (List Char × Int) :=
  let whole := text.takeWhile Char.isDigit
  let rest := text.dropWhile Char.isDigit
  let (fraction, rest) := match rest with
    | '.' :: rest => (rest.takeWhile Char.isDigit, rest.dropWhile Char.isDigit)
    | rest => ([], rest)
  let digits := whole ++ fraction
  if digits.isEmpty then none else
  let power := -(fraction.length : Int)
  match rest with
  | [] => some (digits, power)
  | 'e' :: '-' :: exponent | 'E' :: '-' :: exponent =>
    (magnitudeIn? 10 exponent).map fun n => (digits, power - n)
  | 'e' :: '+' :: exponent | 'E' :: '+' :: exponent | 'e' :: exponent | 'E' :: exponent =>
    (magnitudeIn? 10 exponent).map fun n => (digits, power + n)
  | _ => none

/-- The number that a text writes, unless it is too large for the format. -/
def finite? (text : List Char) : Option Binary64 := do
  let (negative, text) := match text with
    | '-' :: rest => (true, rest)
    | '+' :: rest => (false, rest)
    | text => (false, text)
  let (digits, power) ← decimal? text
  let n ← numberIn? 10 digits
  Binary64.ofDecimal negative n power

/-- The words for the infinite numbers and for what is no number. -/
def isNonFinite (text : List Char) : Bool :=
  [".inf", ".Inf", ".INF", "+.inf", "+.Inf", "+.INF", "-.inf", "-.Inf", "-.INF", ".nan", ".NaN",
    ".NAN"].any (·.toList == text)

/-- The value of a double-precision number; one that is not finite is null. -/
def float? (text : List Char) : Option Value :=
  if isNonFinite text then some .null else (finite? text).map fun x => .number (.float x)

/-! ## Scalars -/

/-- The value of a plain scalar without a tag. -/
def plainValue? (text : String) : Option Value :=
  let cs := text.toList
  if cs.isEmpty || isNullWord cs then some .null else
  match truth? cs, (whole? cs).filter (fitsWord 128) with
  | some b, _ => some (.bool b)
  | none, some n => if fitsWord 64 n then some (.number (.int n)) else none
  | none, none => some ((if isPadded cs then none else float? cs).getD (.string text))

/-- The value of a scalar. -/
def scalarValue? (tag : Option Tag) (plain : Bool) (text : String) : Option Value :=
  match tag with
  | none | some .nameless => if plain then plainValue? text else some (.string text)
  | some .null => if isNullWord text.toList then some .null else none
  | some .truth => (truth? text.toList).map .bool
  | some .whole => ((whole? text.toList).filter (fitsWord 64)).map fun n => .number (.int n)
  | some .float => float? text.toList
  | some (.variant _) => none
  | some .other => some (.string text)

end TextTemplate.Yaml
