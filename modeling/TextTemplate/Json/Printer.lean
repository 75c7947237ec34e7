import TextTemplate.Number.Text
import TextTemplate.Tree
import TextTemplate.Value

/-! # Writing JSON

Values are written compactly, without blanks.  In a string only the quotation
mark, the backslash and the control codes below the space are escaped.  Template
trees are written over several lines, indented by two spaces, with empty lists
kept on one line. -/
namespace TextTemplate.Json

/-- A hexadecimal digit, in lower case. -/
def hexChar (n : Nat) : Char := Nat.digitChar n

/-- A character inside a quoted string. -/
def escapeChar (c : Char) : List Char :=
  if c = '"' then ['\\', '"']
  else if c = '\\' then ['\\', '\\']
  else if c = '\x08' then ['\\', 'b']
  else if c = '\t' then ['\\', 't']
  else if c = '\n' then ['\\', 'n']
  else if c = '\x0c' then ['\\', 'f']
  else if c = '\r' then ['\\', 'r']
  else if c.toNat < 0x20 then
    ['\\', 'u', '0', '0', hexChar (c.toNat / 16), hexChar (c.toNat % 16)]
  else [c]

/-- A string with its quotation marks. -/
def quoted (s : List Char) : List Char :=
  '"' :: (s.flatMap escapeChar ++ ['"'])

mutual

/-- A value on one line, without blanks. -/
def compact : Value → List Char
  | .null => ['n', 'u', 'l', 'l']
  | .bool true => ['t', 'r', 'u', 'e']
  | .bool false => ['f', 'a', 'l', 's', 'e']
  | .number n => n.text
  | .string s => quoted s.toList
  | .array items => '[' :: compactItems items
  | .object entries => '{' :: compactEntries entries

/-- The items of a list and the closing bracket. -/
def compactItems : List Value → List Char
  | [] => [']']
  | [v] => compact v ++ [']']
  | v :: w :: rest => compact v ++ ',' :: compactItems (w :: rest)

/-- The entries of a mapping and the closing brace. -/
def compactEntries : List (String × Value) → List Char
  | [] => ['}']
  | [(k, v)] => quoted k.toList ++ ':' :: compact v ++ ['}']
  | (k, v) :: e :: rest => quoted k.toList ++ ':' :: compact v ++ ',' :: compactEntries (e :: rest)

end

/-- The compact text of a value. -/
def text (v : Value) : String := String.ofList (compact v)

/-- A line break and the indentation of a nesting depth. -/
def newline (depth : Nat) : List Char :=
  '\n' :: List.replicate (2 * depth) ' '

/-- A list over several lines; its items stand one level deeper. -/
def prettyList (depth : Nat) (items : List (List Char)) : List Char :=
  match items with
  | [] => ['[', ']']
  | first :: rest =>
    '[' :: (newline (depth + 1) ++ first ++
      rest.flatMap (fun item => ',' :: (newline (depth + 1) ++ item)) ++ newline depth ++ [']'])

/-- Named fields over several lines, one level deeper. -/
def prettyFields (depth : Nat) (fields : List (String × List Char)) : List Char :=
  let field (f : String × List Char) : List Char :=
    newline (depth + 1) ++ quoted f.1.toList ++ ':' :: ' ' :: f.2
  match fields with
  | [] => ['{', '}']
  | first :: rest =>
    '{' :: (field first ++ rest.flatMap (fun f => ',' :: field f) ++ newline depth ++ ['}'])

/-- A pipe over several lines. -/
def prettyPipe (depth : Nat) (p : Pipe) : List Char :=
  prettyFields depth
    [("name", quoted p.name.toList),
     ("parameters", prettyList (depth + 1) (p.parameters.map fun s => quoted s.toList))]

/-- A variable over several lines. -/
def prettyVariable (depth : Nat) (v : Variable) : List Char :=
  prettyFields depth
    [("name", quoted v.name.toList),
     ("pipes", prettyList (depth + 1) (v.pipes.map (prettyPipe (depth + 2))))]

/-- A template tree over several lines. -/
def prettyTemplate (t : Template) : List Char :=
  prettyFields 0
    [("literals", prettyList 1 (t.literals.map fun s => quoted s.toList)),
     ("variables", prettyList 1 (t.placeholders.map (prettyVariable 2)))]

end TextTemplate.Json
