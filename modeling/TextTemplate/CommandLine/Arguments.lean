import TextTemplate.Settings.Variables

/-! # Arguments of the command line

A template may be given as an argument, or in a file, but not both.  Further options
name a file with the settings of the dialect, a file with variables, and assignments;
a flag asks for the tree of the template in place of its text.

The arguments are read from left to right.  An option takes its value from behind an
equals sign, from the rest of its argument if it is a single letter, or else from the
next argument, which may not look like an option.  What an argument means for those
before it is settled only when the next one has been understood, so of several errors
the one of the first argument that cannot be understood wins over a conflict that the
argument before it gives rise to (`Progress.settle`). -/
namespace TextTemplate.CommandLine

/-- Why arguments are refused. -/
inductive UsageError where
  /-- There is no such option, or no place for another argument. -/
  | unknownArgument
  /-- Options that exclude each other, or one that may be given only once. -/
  | conflict
  /-- An option without its value. -/
  | missingValue
  /-- A value for an option that takes none. -/
  | excessValue
  /-- The arguments ask for help. -/
  | helpRequested
deriving DecidableEq, Repr

/-- The options that take a value. -/
inductive ValueOption where
  | file
  | config
  | vars
  | set
deriving DecidableEq, Repr

/-- The options with what they do. -/
inductive Action where
  | take (option : ValueOption)
  /-- Asks for the tree of the template. -/
  | dump
  | help
deriving DecidableEq, Repr

/-- The option of a word. -/
def Action.ofWord? (word : List Char) : Option Action :=
  ([("file", .take .file), ("config", .take .config), ("vars", .take .vars), ("set", .take .set),
    ("ast", .dump), ("help", .help)].find? fun (entry : String × Action) =>
      entry.1.toList == word).map (·.2)

/-- The option of a letter. -/
def Action.ofLetter? : Char → Option Action
  | 'f' => some (.take .file)
  | 'c' => some (.take .config)
  | 'v' => some (.take .vars)
  | 's' => some (.take .set)
  | 'h' => some .help
  | _ => none

/-- What the arguments ask for. -/
structure Arguments where
  template : Option String
  file : Option String
  config : Option String
  vars : Option String
  /-- The assignments in order. -/
  assignments : List String
  /-- Whether the tree is asked for. -/
  dump : Bool
deriving DecidableEq, Repr

namespace Arguments

/-- Asks for nothing. -/
def none : Arguments := ⟨.none, .none, .none, .none, [], false⟩

/-- Puts a value where there is none yet. -/
def once (old : Option String) (value : String) : Except UsageError (Option String) :=
  if old.isSome then .error .conflict else .ok (some value)

/-- Gives an option a value; all but assignments take only one. -/
def give (a : Arguments) (option : ValueOption) (value : String) : Except UsageError Arguments :=
  match option with
  | .file => (once a.file value).map fun v => { a with file := v }
  | .config => (once a.config value).map fun v => { a with config := v }
  | .vars => (once a.vars value).map fun v => { a with vars := v }
  | .set => .ok { a with assignments := a.assignments ++ [value] }

end Arguments

/-- What the last argument leaves open. -/
inductive Pending where
  | nothing
  /-- An option that needs a value. -/
  | awaiting (option : ValueOption)
  | value (option : ValueOption) (text : String)
  | template (text : String)
deriving DecidableEq, Repr

/-- The arguments understood so far. -/
structure Progress where
  arguments : Arguments
  pending : Pending
  /-- Whether the place of the template is taken. -/
  templateSeen : Bool
  /-- Whether options have ended. -/
  optionsEnded : Bool
deriving DecidableEq, Repr

namespace Progress

/-- Nothing has been read. -/
def start : Progress := ⟨.none, .nothing, false, false⟩

/-- Does what the last argument left open. -/
def settle (p : Progress) : Except UsageError Progress :=
  match p.pending with
  | .nothing => .ok p
  | .awaiting _ => .error .missingValue
  | .value option text =>
    (p.arguments.give option text).map fun a => { p with arguments := a, pending := .nothing }
  | .template text =>
    .ok { p with arguments := { p.arguments with template := some text }, pending := .nothing }

/-- An option with a value attached to it, or without. -/
def act (p : Progress) (action : Action) (value : Option (List Char)) :
    Except UsageError Progress :=
  match action, value with
  | .take option, some text => do
    let p ← p.settle
    let a ← p.arguments.give option (String.ofList text)
    return { p with arguments := a }
  | .take option, none => do
    let p ← p.settle
    return { p with pending := .awaiting option }
  | _, some _ => .error .excessValue
  | .dump, none => do
    let p ← p.settle
    if p.arguments.dump then throw .conflict
    return { p with arguments := { p.arguments with dump := true } }
  | .help, none => do
    let _ ← p.settle
    throw .helpRequested

/-- An option of a word; a value may follow behind an equals sign. -/
def readWord (p : Progress) (text : List Char) : Except UsageError Progress :=
  let (word, value) := match splitAssignment text with
    | some (word, value) => (word, some value)
    | none => (text, none)
  match Action.ofWord? word with
  | some action => p.act action value
  | none => .error .unknownArgument

/-- An option of a letter; a value may follow, with or without an equals sign.  An
option that takes none ignores what follows. -/
def readLetter (p : Progress) (letter : Char) (rest : List Char) :
    Except UsageError Progress :=
  match Action.ofLetter? letter, rest with
  | none, _ => .error .unknownArgument
  | some (.take option), [] => p.act (.take option) none
  | some (.take option), '=' :: value => p.act (.take option) (some value)
  | some (.take option), value => p.act (.take option) (some value)
  | some action, _ => p.act action none

/-- The template. -/
def readTemplate (p : Progress) (text : String) : Except UsageError Progress :=
  if p.templateSeen then .error .unknownArgument
  else p.settle.map fun p => { p with pending := .template text, templateSeen := true }

/-- An argument that does not look like an option. -/
def readPlain (p : Progress) (text : String) : Except UsageError Progress :=
  match p.pending with
  | .awaiting option => .ok { p with pending := .value option text }
  | _ => p.readTemplate text

/-- The next argument. -/
def read (p : Progress) (text : String) : Except UsageError Progress :=
  if p.optionsEnded then p.readTemplate text
  else
    match text.toList with
    | ['-', '-'] => .ok { p with optionsEnded := true }
    | '-' :: '-' :: rest => p.readWord rest
    | '-' :: letter :: rest => p.readLetter letter rest
    | _ => p.readPlain text

end Progress

/-- Reads the arguments of a command line. -/
def readArguments (args : List String) : Except UsageError Arguments := do
  let p ← args.foldlM Progress.read .start
  let p ← p.settle
  if p.arguments.template.isSome && p.arguments.file.isSome then throw .conflict
  return p.arguments

end TextTemplate.CommandLine
