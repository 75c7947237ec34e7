import TextTemplate.Unicode.Age
import TextTemplate.Unicode.Script
import TextTemplate.Unicode.Segmentation

/-! # Named classes

The character classes that patterns name: digits, blanks and word characters by a
letter, the bracketed classes such as `alpha`, and what the character database says
of characters: categories, scripts, ages, properties and where text breaks. -/
namespace TextTemplate.Pattern.Classes

open Unicode

/-- The ASCII characters. -/
def ascii : CharSet := ⟨[(0, 0x7f)]⟩

/-- The class of a letter: digits, blanks or word characters. -/
def letterClass? (unicode : Bool) : Char → Option CharSet
  | 'd' => some (if unicode then Category.decimalNumber else ⟨[(48, 57)]⟩)
  | 's' => some (if unicode then Property.whiteSpace else ⟨[(9, 13), (32, 32)]⟩)
  | 'w' => some (if unicode then Property.word else ⟨[(48, 57), (65, 90), (95, 95), (97, 122)]⟩)
  | _ => none

/-- The classes written as `[:name:]`; they hold ASCII characters only. -/
def bracketClasses : List (String × CharSet) :=
  [("alnum", ⟨[(48, 57), (65, 90), (97, 122)]⟩),
   ("alpha", ⟨[(65, 90), (97, 122)]⟩),
   ("ascii", ascii),
   ("blank", ⟨[(9, 9), (32, 32)]⟩),
   ("cntrl", ⟨[(0, 31), (127, 127)]⟩),
   ("digit", ⟨[(48, 57)]⟩),
   ("graph", ⟨[(33, 126)]⟩),
   ("lower", ⟨[(97, 122)]⟩),
   ("print", ⟨[(32, 126)]⟩),
   ("punct", ⟨[(33, 47), (58, 64), (91, 96), (123, 126)]⟩),
   ("space", ⟨[(9, 13), (32, 32)]⟩),
   ("upper", ⟨[(65, 90)]⟩),
   ("word", ⟨[(48, 57), (65, 90), (95, 95), (97, 122)]⟩),
   ("xdigit", ⟨[(48, 57), (65, 70), (97, 102)]⟩)]

/-- The class written as `[:name:]`. -/
def bracketClass? (name : String) : Option CharSet := bracketClasses.lookup name

/-- Names are compared without case, blanks, hyphens and low lines, and without
a leading "is". -/
def normalise (name : List Char) : String :=
  let lower := name.map Char.toLower
  let (started, rest) := match lower with
    | 'i' :: 's' :: rest => (true, rest)
    | rest => (false, rest)
  let kept := rest.filter fun c => c != ' ' && c != '_' && c != '-' && c.toNat < 0x80
  String.ofList (if started && kept == ['c'] then ['i', 's', 'c'] else kept)

/-- The class of a bare name: a property, a category or a script. -/
def named? (name : List Char) : Option CharSet :=
  let name := normalise name
  let property := if name == "cf" || name == "sc" || name == "lc" then none
    else Property.named? name
  property <|> Category.named? name <|> Script.named? name

/-- The class of a property name and a value. -/
def valued? (name value : List Char) : Option CharSet :=
  let name := normalise name
  let value := normalise value
  match name with
  | "gc" | "generalcategory" => Category.named? value
  | "sc" | "script" => Script.named? value
  | "scx" | "scriptextensions" => Script.extension? value
  | "age" => Age.named? value
  | "gcb" | "graphemeclusterbreak" => Segmentation.named? Segmentation.graphemes value
  | "wb" | "wordbreak" => Segmentation.named? Segmentation.words value
  | "sb" | "sentencebreak" => Segmentation.named? Segmentation.sentences value
  | _ => none

end TextTemplate.Pattern.Classes
