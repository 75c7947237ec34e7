import TextTemplate.Dialect.Building
import TextTemplate.Yaml.Content

/-! # Dialects from settings

Settings name the patterns of a dialect and say how parameters are quoted; whatever
they leave out is as in the standard dialect.  They are read from a document whose
top level is a mapping of known keys, each at most once (`DialectSettings.ofText`).

Patterns are not looked at until a dialect is made of the settings
(`DialectSettings.toDialect`); the first one that cannot be read fails the whole. -/
namespace TextTemplate

/-- How parameters are quoted. -/
inductive ParameterQuoting where
  /-- As names are. -/
  | quotes
  | braces
  /-- By braces, or else as names are. -/
  | bracesOrQuotes
deriving DecidableEq, Repr

namespace ParameterQuoting

/-- The name of a way of quoting, as settings spell it. -/
def name : ParameterQuoting → String
  | .quotes => "quotes"
  | .braces => "braces"
  | .bracesOrQuotes => "braces_or_quotes"

/-- The way of quoting that a name stands for. -/
def ofName? (name : String) : Option ParameterQuoting :=
  [quotes, braces, bracesOrQuotes].find? (·.name == name)

/-- How parameters are quoted where names are quoted as given. -/
def toQuoting (names : Quoting) : ParameterQuoting → Quoting
  | .quotes => names
  | .braces => .standardBraces
  | .bracesOrQuotes => .chain [.standardBraces, names]

end ParameterQuoting

/-- The settings of a dialect. -/
structure DialectSettings where
  escape : Option String
  variableStart : Option String
  variableEnd : Option String
  pipeStart : Option String
  parameterStart : Option String
  quotedString : Option String
  parameterQuoting : Option ParameterQuoting
deriving DecidableEq, Repr

namespace DialectSettings

/-- Settings that leave everything out. -/
def standard : DialectSettings := ⟨none, none, none, none, none, none, none⟩

/-! ## Dialects -/

/-- The changes that the patterns of delimiters make, in order. -/
def steps (s : DialectSettings) : List DialectStep :=
  s.escape.toList.map .escape ++
    s.variableStart.toList.map (.delimiter .variableStart) ++
    s.variableEnd.toList.map (.delimiter .variableEnd) ++
    s.pipeStart.toList.map (.delimiter .pipeStart) ++
    s.parameterStart.toList.map (.delimiter .parameterStart)

/-- How names are quoted. -/
def nameQuoting (s : DialectSettings) : Except Error Quoting :=
  match s.quotedString with
  | some text => Quoting.ofText text
  | none => .ok .standard

/-- The dialect that settings describe. -/
def toDialect (s : DialectSettings) : Except Error Dialect := do
  let d ← Dialect.build s.steps
  let names ← s.nameQuoting
  let parameters := (s.parameterQuoting.getD .quotes).toQuoting names
  return { d with names := names, parameters := parameters }

/-! ## Reading -/

/-- A key of the settings. -/
inductive Key where
  | pattern (option : PatternOption)
  | parameterQuoting
deriving DecidableEq, Repr

/-- The key that a name stands for. -/
def Key.ofName? (name : String) : Option Key :=
  if name = "parameter_quoting" then some .parameterQuoting
  else
    ([.escape, .variableStart, .variableEnd, .pipeStart, .parameterStart, .quotedString].find?
      fun (option : PatternOption) => option.name == name).map .pattern

/-- Sets a pattern. -/
def withPattern (s : DialectSettings) (text : Option String) : PatternOption → DialectSettings
  | .escape => { s with escape := text }
  | .variableStart => { s with variableStart := text }
  | .variableEnd => { s with variableEnd := text }
  | .pipeStart => { s with pipeStart := text }
  | .parameterStart => { s with parameterStart := text }
  | .quotedString => { s with quotedString := text }

open Yaml in
/-- Whether a scalar leaves a setting out.  Under the tag for null it has to. -/
def leavesOut? (tag : Option Tag) (plain : Bool) (text : String) : Option Bool :=
  if !plain then some false
  else
    match tag with
    | none => some (text.isEmpty || isNullWord text.toList)
    | some .null => if isNullWord text.toList then some true else none
    | some _ => some false

open Yaml in
/-- The text that a node sets a pattern to, if it does not leave it out. -/
def patternText? : Node → Option (Option String)
  | .scalar p plain text =>
    (leavesOut? p.tag plain text).map fun out => if out then none else some text
  | _ => none

open Yaml in
/-- The way of quoting that a node sets, if it does not leave it out: a name, or a
name as the tag of nothing. -/
def quoting? : Node → Option (Option ParameterQuoting)
  | .scalar p plain text => do
    if ← leavesOut? p.tag plain text then return none
    match p.tag with
    | some (.variant name) =>
      if !plain || !(text.isEmpty || isNullWord text.toList) then none
      return some (← ParameterQuoting.ofName? name)
    | _ => return some (← ParameterQuoting.ofName? text)
  | _ => none

/-- Sets what a key and the node behind it say. -/
def apply (s : DialectSettings) (key : Key) (n : Yaml.Node) : Option DialectSettings :=
  match key with
  | .pattern option => (patternText? n).map fun text => s.withPattern text option
  | .parameterQuoting => (quoting? n).map fun q => { s with parameterQuoting := q }

open Yaml in
/-- A key and the node behind it, where neither is an alias. -/
def readEntry (targets : Targets) (entry : Node × Node) : Limited (Key × Node) := do
  let key ← StateT.lift (Key.ofName? (← entry.1.keyText targets))
  return (key, ← entry.2.follow targets)

open Yaml in
/-- The settings of a document.  Nothing at all leaves everything out. -/
def ofDocument? : Document → Option DialectSettings
  | .empty => some standard
  | .root (.scalar _ plain text) => if plain && text.isEmpty then some standard else none
  | .root (.mapping p entries) => do
    let root : Node := .mapping p entries
    let (entries, _) ← (entries.mapM (readEntry root.targets)).run (usesPerNode * root.size)
    if (entries.map (·.1)).Nodup then
      entries.foldlM (fun s (key, n) => s.apply key n) standard
    else none
  | .root _ => none

/-- The settings that a text holds. -/
def ofText (text : String) : Except Error DialectSettings :=
  match (Yaml.readDocument? text).bind ofDocument? with
  | some s => .ok s
  | none => .error .settings

end DialectSettings
end TextTemplate
