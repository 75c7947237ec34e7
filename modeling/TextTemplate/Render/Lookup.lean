import TextTemplate.Json.Printer

/-! # The values of names

A variable name is a key, or else a path: keys and list positions with dots in
between.  A key that equals the whole name comes first.  A path that leads nowhere
gives null.

The text of a value is what it contributes to a rendered template before any pipe.
Null, false, zero and empty text count as missing and contribute nothing.  Inside a
list only null does: a list is the text of its items with commas in between, and lists
inside it are written in the same way, without brackets.  A mapping is written as
JSON. -/
namespace TextTemplate

/-! ## Looking names up -/

/-- The pieces between dots; there is always one more than there are dots. -/
def splitDots : List Char → List (List Char)
  | [] => [[]]
  | c :: cs =>
    if c = '.' then [] :: splitDots cs
    else
      match splitDots cs with
      | [] => [[c]]
      | piece :: pieces => (c :: piece) :: pieces

/-- A list position: decimal digits with an optional plus sign, below `2^64`. -/
def position? (piece : List Char) : Option Nat :=
  let digits := match piece with
    | '+' :: rest => rest
    | rest => rest
  if digits.isEmpty || !digits.all Char.isDigit then none else
  let n := digits.foldl (fun n d => n * 10 + (d.toNat - 48)) 0
  if n < 1 <<< 64 then some n else none

namespace Value

/-- The value one step inside a value. -/
def child? (v : Value) (piece : List Char) : Option Value :=
  match v with
  | .object entries => Entries.get? entries (String.ofList piece)
  | .array items => (position? piece).bind fun i => items[i]?
  | _ => none

/-- The value at the end of a path. -/
def descend? (v : Value) : List (List Char) → Option Value
  | [] => some v
  | piece :: pieces => (v.child? piece).bind (·.descend? pieces)

end Value

namespace Variables

/-- The value at a path whose first step is a variable. -/
def walk? (vars : Variables) : List (List Char) → Option Value
  | [] => none
  | piece :: pieces =>
    (Entries.get? vars (String.ofList piece)).bind (·.descend? pieces)

/-- The value that a name stands for. -/
def resolve (vars : Variables) (name : String) : Value :=
  match Entries.get? vars name with
  | some v => v
  | none => (walk? vars (splitDots name.toList)).getD .null

end Variables

/-! ## The text of values -/

namespace Value

mutual

/-- The text of an item of a list. -/
def itemText : Value → String
  | .null => ""
  | .bool b => if b then "true" else "false"
  | .number n => String.ofList n.text
  | .string s => s
  | .array items => ",".intercalate (itemTexts items)
  | .object entries => Json.text (.object entries)

/-- The texts of the items of a list. -/
def itemTexts : List Value → List String
  | [] => []
  | v :: vs => itemText v :: itemTexts vs

end

/-- Whether the value is a plain one that counts as missing although an item of a
list with that value has a text. -/
def isFalsy : Value → Bool
  | .bool b => !b
  | .number n => n.isZero
  | _ => false

/-- The text of a value. -/
def toText (v : Value) : String :=
  if v.isFalsy then "" else v.itemText

theorem itemTexts_eq_map (items : List Value) : itemTexts items = items.map itemText := by
  induction items with
  | nil => rfl
  | cons v vs ih => simp [itemTexts, ih]

end Value
end TextTemplate
