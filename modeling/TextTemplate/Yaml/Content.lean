import TextTemplate.Yaml.Document
import TextTemplate.Yaml.Resolution

/-! # The value of a document

Keys of mappings are the text of scalars, and of several entries with one key the last
counts.  Aliases stand for the nodes they name wherever they are used, a limited number
of times (`usesPerNode`), and at most `nestingLimit` collections may stand inside one
another, those behind aliases included. -/
namespace TextTemplate.Yaml

/-- The greatest number of collections inside one another. -/
def nestingLimit : Nat := 128

/-- How often aliases may be used, for each unit of the document's size. -/
def usesPerNode : Nat := 100

/-- What aliases stand for. -/
abbrev Targets := List (Nat × Node)

/-- A computation that may use aliases a limited number of times. -/
abbrev Limited := StateT Nat Option

/-- The node itself, or what it stands for if it is an alias. -/
def Node.follow (targets : Targets) (n : Node) : Limited Node := do
  match n with
  | .alias anchor =>
    let uses ← get
    if uses = 0 then failure
    set (uses - 1)
    StateT.lift (targets.lookup anchor)
  | n => return n

/-- The text of a key. -/
def Node.keyText (targets : Targets) (n : Node) : Limited String := do
  match ← n.follow targets with
  | .scalar _ _ text => return text
  | _ => failure

/-- Whether a tag names a variant, which no value has. -/
def Tag.isVariant : Tag → Bool
  | .variant _ => true
  | _ => false

/-- The value of a node with at most `depth` levels of nesting. -/
def Node.value (targets : Targets) : Nat → Node → Limited Value
  | depth, n => do
    match ← n.follow targets, depth with
    | .scalar p plain text, _ => StateT.lift (scalarValue? p.tag plain text)
    | .sequence p items, depth + 1 =>
      if p.tag.any Tag.isVariant then failure
      return .array (← items.mapM (value targets depth))
    | .mapping p entries, depth + 1 =>
      if p.tag.any Tag.isVariant then failure
      let entries ← entries.mapM fun (k, v) => do
        return (← k.keyText targets, ← value targets depth v)
      return .object (Entries.ofList entries)
    | _, _ => failure

/-- The value of a document; an empty one is null. -/
def Document.value? : Document → Option Value
  | .empty => some .null
  | .root n => ((n.value n.targets nestingLimit).run (usesPerNode * n.size)).map (·.1)

/-- The value of the document that a text holds. -/
def readValue? (text : String) : Option Value := (readDocument? text).bind Document.value?

end TextTemplate.Yaml
