import TextTemplate.Dialect.Basic
import TextTemplate.Render.Pipes
import TextTemplate.Unicode.Property

/-! # Showing dialects and registries

A dialect is shown with the text of each pattern and the structure of its quoting,
a registry with the names of its pipes.  Text is shown in quotation marks, with escapes
for what could be mistaken or not be seen: the mark itself, the backslash, the usual
control codes, characters that combine with the one before them, and characters without
a shape of their own. -/
namespace TextTemplate

/-! ## Quoted text -/

namespace Text

open Unicode

/-- Characters without a shape: blanks other than the space, fillers, control and
format codes, and code points that no character is assigned to. -/
def shapeless : CharSet :=
  (CharSet.unionOf [Category.other, Category.separator.diff (.single ' '),
    .ofText "115f-1160 3164 ffa0"]).diff Additions.assigned

/-- Characters that combine with the one before them; the voiced marks of half-width
Katakana stand by themselves. -/
def combining : CharSet :=
  (Property.graphemeExtend.union Additions.graphemeExtend).diff (.ofText "ff9e-ff9f")

/-- Whether the character is shown by its code point. -/
def isHidden (c : Char) : Bool :=
  if c.toNat < 0x7f then c.toNat < 0x20
  else combining.contains c || shapeless.contains c

/-- The digits of a number in lower-case hexadecimal. -/
def hexadecimal (n : Nat) : List Char := Nat.toDigits 16 n

/-- A character as it is shown between the quotation marks `mark`. -/
def displayChar (mark : Char) (c : Char) : List Char :=
  if c = '\x00' then ['\\', '0']
  else if c = '\t' then ['\\', 't']
  else if c = '\r' then ['\\', 'r']
  else if c = '\n' then ['\\', 'n']
  else if c = mark || c = '\\' then ['\\', c]
  else if isHidden c then ['\\', 'u', '{'] ++ hexadecimal c.toNat ++ ['}']
  else [c]

/-- A text in double quotation marks. -/
def display (s : String) : List Char :=
  '"' :: (s.toList.flatMap (displayChar '"') ++ ['"'])

/-- A character in single quotation marks. -/
def displayOne (c : Char) : List Char :=
  '\'' :: (displayChar '\'' c ++ ['\''])

/-- Texts separated by a comma and a blank. -/
def commaSeparated : List (List Char) → List Char
  | [] => []
  | [t] => t
  | t :: u :: rest => t ++ ',' :: ' ' :: commaSeparated (u :: rest)

end Text

/-! ## Dialects and registries -/

/-- A name and fields in braces. -/
def displayRecord (name : String) (fields : List (String × List Char)) : List Char :=
  name.toList ++ [' ', '{', ' '] ++
    Text.commaSeparated (fields.map fun f => f.1.toList ++ ':' :: ' ' :: f.2) ++ [' ', '}']

namespace Quoting

mutual

/-- A way of quoting. -/
def display : Quoting → List Char
  | .pattern p =>
    displayRecord "RegexQuote"
      [("regex", "Regex(".toList ++ Text.display p.source ++ [')'])]
  | .braces opening closing =>
    displayRecord "BraceBalancedQuote"
      [("open", Text.displayOne opening), ("close", Text.displayOne closing),
        ("escape", Text.displayOne '\\')]
  | .chain members =>
    displayRecord "QuoteChain"
      [("strategies", '[' :: (Text.commaSeparated (displayAll members) ++ [']']))]
  | .custom _ _ => "QuoteFns".toList

/-- Ways of quoting one by one. -/
def displayAll : List Quoting → List (List Char)
  | [] => []
  | q :: qs => q.display :: displayAll qs

end

end Quoting

/-- A dialect. -/
def Dialect.display (d : Dialect) : String :=
  String.ofList <| displayRecord "ParserConfig"
    [("escape", Text.display d.escape.source),
     ("variable_start", Text.display d.variableStart.source),
     ("variable_end", Text.display d.variableEnd.source),
     ("pipe_start", Text.display d.pipeStart.source),
     ("pipe_parameter_start", Text.display d.parameterStart.source),
     ("quoted_string", d.names.display),
     ("quoted_string_in_parameter", d.parameters.display)]

/-- A registry. -/
def Registry.display (r : Registry) : String :=
  String.ofList <| displayRecord "PipeRegistry"
    [("pipes", '[' :: (Text.commaSeparated (r.names.map Text.display) ++ [']']))]

end TextTemplate
