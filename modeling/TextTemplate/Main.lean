import TextTemplate.CommandLine.Run

/-! # The command

Reads what the arguments name, runs them, and prints the outcome: the text on the
standard output, or what went wrong on the standard error. -/
namespace TextTemplate.CommandLine

/-- The help text: what the command is for, its argument, and its options. -/
def usage : String :=
  "Render $\x7bvariable|pipe:param\x7d string templates\n\n" ++
  "Usage: pipestring [OPTIONS] [TEMPLATE]\n\n" ++
  "Arguments:\n" ++
  "  [TEMPLATE]  Template text (read from --file or stdin when omitted)\n\n" ++
  "Options:\n" ++
  "  -f, --file <FILE>      Path to a file containing the template\n" ++
  "  -c, --config <SYNTAX>  Path to a YAML file with delimiter settings\n" ++
  "  -v, --vars <VARS>      Path to a YAML or JSON file with variables\n" ++
  "  -s, --set <KEY=VALUE>  Set a variable (VALUE is parsed as JSON when possible)\n" ++
  "      --ast              Print the parsed template as JSON instead of rendering it\n" ++
  "  -h, --help             Print help\n"

/-- The wording of a refusal. -/
def UsageError.message : UsageError → String
  | .unknownArgument => "unexpected argument"
  | .conflict => "an option conflicts with another or is given twice"
  | .missingValue => "an option needs a value"
  | .excessValue => "an option takes no value"
  | .helpRequested => "help requested"

/-- The wording of a failure. -/
def Failure.message (f : Failure) : String :=
  match f.context? with
  | some context => context ++ ": " ++ f.causeMessage
  | none => f.causeMessage

/-- Reads a file, if it can be read. -/
def readFile? (path : String) : IO (Option ByteArray) := do
  try
    return some (← IO.FS.readBinFile path)
  catch _ =>
    return none

/-- Reads what the arguments name. -/
def gather (a : Arguments) : IO Inputs := do
  let paths := a.file.toList ++ a.config.toList ++ a.vars.toList
  let files ← paths.mapM fun path => return (path, ← readFile? path)
  let bytes ←
    if a.template.isNone && a.file.isNone then (← IO.getStdin).readBinToEnd
    else pure .empty
  return ⟨bytes, fun path => (files.lookup path).join⟩

end TextTemplate.CommandLine

open TextTemplate.CommandLine in
/-- Runs the command and gives its exit code. -/
def main (args : List String) : IO UInt32 := do
  match readArguments args with
  | .error .helpRequested => IO.print usage; return 0
  | .error e => IO.eprintln ("error: " ++ e.message); return 2
  | .ok a =>
    match a.run (← gather a) with
    | .ok text => IO.print text; return 0
    | .error f => IO.eprintln ("error: " ++ f.message); return 1
