import TextTemplate.Unicode.CharSet

/-! # Patterns as trees

A pattern describes spans of text: characters, sets of characters, marks that hold
between two characters, sequences, choices, repetitions and numbered groups whose
text is remembered.

Trees are built with the functions `ofSet`, `sequence`, `choice` and `repetition`,
which simplify what they are given: characters in a row make one literal, a choice
between characters makes a set, and the parts with which all the alternatives of a
choice start are taken out of it.  What is described stays the same, but the
simplified tree is what storage is measured by and what the matching of empty
rounds goes by. -/
namespace TextTemplate.Pattern

/-- What a word character is for a word mark. -/
inductive WordKind where
  | unicode
  | ascii
deriving DecidableEq, Repr

/-- A condition on the place between two characters. -/
inductive Mark where
  | textStart
  | textEnd
  | lineStart
  | lineEnd
  /-- As `lineStart`, where a carriage return also ends a line. -/
  | lineStartCR
  /-- As `lineEnd`, where a carriage return also ends a line. -/
  | lineEndCR
  | wordBoundary (kind : WordKind)
  | notWordBoundary (kind : WordKind)
  | wordStart (kind : WordKind)
  | wordEnd (kind : WordKind)
  | wordStartHalf (kind : WordKind)
  | wordEndHalf (kind : WordKind)
deriving DecidableEq, Repr

/-- A pattern. -/
inductive Node where
  | empty
  /-- Characters one after the other, at least one. -/
  | literal (text : List Char)
  | set (s : Unicode.CharSet)
  | mark (m : Mark)
  | group (index : Nat) (body : Node)
  | seq (first second : Node)
  | alt (first second : Node)
  /-- Between `least` and `most` repetitions, or any number from `least` on; as
  many as possible if `greedy`. -/
  | repeat (body : Node) (least : Nat) (most : Option Nat) (greedy : Bool)
deriving DecidableEq, Repr, Inhabited

namespace Node

/-- The pattern that describes no span. -/
def never : Node := .set .none

/-- The pattern for one character. -/
def char (c : Char) : Node := .literal [c]

/-! ## The length of spans -/

/-- The length of the shortest span, in characters; there is none if some part of
the pattern describes no span. -/
def minLength : Node → Option Nat
  | .empty | .mark _ => some 0
  | .literal text => some text.length
  | .set s => if s.isEmpty then none else some 1
  | .group _ body => body.minLength
  | .seq first second => do return (← first.minLength) + (← second.minLength)
  | .alt first second => do return min (← first.minLength) (← second.minLength)
  | .repeat body least _ _ => body.minLength.map (least * ·)

/-- Whether every span of the pattern is known to have text in it. -/
def takesText (n : Node) : Bool := n.minLength.any (0 < ·)

/-- Whether every span of the pattern is known to be empty. -/
def takesNoText : Node → Bool
  | .empty | .mark _ => true
  | .literal text => text.isEmpty
  | .set _ => false
  | .group _ body => body.takesNoText
  | .seq first second => first.takesNoText && second.takesNoText
  | .alt first second => first.takesNoText && second.takesNoText
  | .repeat body _ most _ => most.isSome && body.takesNoText

/-! ## Marks at the ends -/

/-- Whether every span of the pattern starts where `m` holds, as the marks that
stand before its first text show. -/
def startsWith (m : Mark) : Node → Bool
  | .mark m' => m' == m
  | .group _ body => body.startsWith m
  | .seq first second => first.startsWith m || first.takesNoText && second.startsWith m
  | .alt first second => first.startsWith m && second.startsWith m
  | .repeat body least _ _ => 0 < least && body.startsWith m
  | _ => false

/-- Whether every span of the pattern ends where `m` holds, as the marks that stand
behind its last text show. -/
def endsWith (m : Mark) : Node → Bool
  | .mark m' => m' == m
  | .group _ body => body.endsWith m
  | .seq first second => second.endsWith m || second.takesNoText && first.endsWith m
  | .alt first second => first.endsWith m && second.endsWith m
  | .repeat body least _ _ => 0 < least && body.endsWith m
  | _ => false

/-- Whether every span of the pattern starts at the start of the text. -/
def anchored (n : Node) : Bool := n.startsWith .textStart

/-! ## Building trees -/

/-- The pattern for a character of a set. -/
def ofSet (s : Unicode.CharSet) : Node :=
  match s.scalars.ranges with
  | [(lo, hi)] => if lo = hi then char (Char.ofNat lo) else .set s.scalars
  | _ => .set s.scalars

/-- The first pattern and then the second.  Sequences stay nested to the right, no
part of one is empty, and no two literals follow each other. -/
def andThen : Node → Node → Node
  | .empty, n => n
  | .seq first second, n => .seq first (andThen second n)
  | .literal text, .literal more => .literal (text ++ more)
  | .literal text, .seq (.literal more) rest => .seq (.literal (text ++ more)) rest
  | n, .empty => n
  | n, m => .seq n m

/-- Patterns one after the other. -/
def sequence (ns : List Node) : Node := ns.foldr andThen .empty

/-- The parts of a sequence. -/
def parts : Node → List Node
  | .seq first second => first :: second.parts
  | n => [n]

/-- The alternatives of a choice. -/
def alternatives : Node → List Node
  | .alt first second => first :: second.alternatives
  | n => [n]

/-- The set that the alternatives come to, if they are all single characters or all
sets. -/
def commonSet? (ns : List Node) : Option Unicode.CharSet :=
  let char? : Node → Option (List (Nat × Nat))
    | .literal [c] => some [(c.toNat, c.toNat)]
    | _ => none
  let set? : Node → Option (List (Nat × Nat))
    | .set s => some s.ranges
    | _ => none
  (ns.mapM char? <|> ns.mapM set?).map fun ranges => .ofRanges ranges.flatten

/-- The first alternative that fits. -/
def firstOf : List Node → Node
  | [] => never
  | [n] => n
  | n :: ns => .alt n (firstOf ns)

/-- The first alternative that fits, where characters and sets are put together. -/
def merge (ns : List Node) : Node :=
  match ns.flatMap alternatives with
  | [n] => n
  | ns =>
    match commonSet? ns with
    | some s => ofSet s
    | none => firstOf ns

/-- The parts with which both lists start. -/
def commonStart : List Node → List Node → List Node
  | n :: ns, m :: ms => if n = m then n :: commonStart ns ms else []
  | _, _ => []

/-- The parts with which all the alternatives start, if they are all sequences of at
least two parts. -/
def sharedStart : List Node → List Node
  | [] => []
  | n :: ns =>
    if (n :: ns).all (2 ≤ ·.parts.length) then
      ns.foldl (fun start m => commonStart start m.parts) n.parts
    else []

/-- The first alternative that fits.  The parts with which all the alternatives
start stand before the choice. -/
def choice (ns : List Node) : Node :=
  let ns := ns.flatMap alternatives
  let shared := if 2 ≤ ns.length && (commonSet? ns).isNone then sharedStart ns else []
  if shared.isEmpty then merge ns else
  sequence (shared ++ [merge (ns.map fun n => sequence (n.parts.drop shared.length))])

/-- Between `least` and `most` repetitions.  A body that takes no text is not worth
repeating. -/
def repetition (body : Node) (least : Nat) (most : Option Nat) (greedy : Bool) : Node :=
  let (least, most) :=
    if body.takesNoText then (min least 1, some ((most.map (min · 1)).getD 1))
    else (least, most)
  if most = some 0 then .empty
  else if least = 1 ∧ most = some 1 then body
  else .repeat body least most greedy

end Node
end TextTemplate.Pattern
