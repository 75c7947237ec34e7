import TextTemplate.Render.Lookup
import TextTemplate.Render.Pipes
import TextTemplate.Dialect.Standard
import TextTemplate.Scan.Scanner

/-! # Rendering templates

A tree is rendered part by part in reading order.  A variable is looked up, turned
into text and sent through its pipes from left to right; pipes that nobody
registered pass the text on. -/
namespace TextTemplate

/-- The text of a value sent through pipes. -/
def applyPipes (registry : Registry) (pipes : List Pipe) (text : String) : String :=
  pipes.foldl (fun text p =>
    match registry.get? p.name with
    | some f => f text p.parameters
    | none => text) text

namespace Variable

/-- The text of a variable. -/
def render (registry : Registry) (lookup : String → Value) (v : Variable) : String :=
  applyPipes registry v.pipes (lookup v.name).toText

end Variable

namespace Part

/-- The text of a part. -/
def render (registry : Registry) (lookup : String → Value) : Part → String
  | .literal text => text
  | .variable v => v.render registry lookup

end Part

namespace Template

/-- The text of a template whose names are looked up by a function. -/
def renderWith (t : Template) (registry : Registry) (lookup : String → Value) : String :=
  String.join (t.parts.map (Part.render registry lookup))

/-- The text of a template filled from variables. -/
def render (t : Template) (vars : Variables) (registry : Registry) : String :=
  t.renderWith registry vars.resolve

end Template

/-- Reads a template in a dialect and renders it. -/
def Dialect.render (d : Dialect) (text : String) (vars : Variables) (registry : Registry) :
    Except ScanError String :=
  (d.parse text).map (·.render vars registry)

end TextTemplate
