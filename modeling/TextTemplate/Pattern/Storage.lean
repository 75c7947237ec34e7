import Std.Data.TreeMap.Basic
import TextTemplate.Pattern.Node
import TextTemplate.Text.Bytes
import TextTemplate.Unicode.CharSet

/-! # The storage of patterns

The size of a pattern is limited by what two automata take that read the bytes of
its spans: one reads forwards and notes where groups start and end, the other reads
backwards and notes no groups.  Repetitions are written out, so a short pattern can
make large automata.

A state takes 32 bytes, each range of bytes that leads out of it takes another 8 if
there is a table of them, and each way out of a fork takes another 4.  An automaton
is built state by state, and building it fails as soon as it takes too much; nothing
of it is kept but its size.  `fits` says whether both automata can be built. -/
namespace TextTemplate.Pattern.Storage

open Unicode

/-- The most storage that an automaton may take, in bytes. -/
def limit : Nat := 10 <<< 20

/-- What has been built of an automaton. -/
structure Automaton where
  /-- The number of states, which are numbered in the order in which they are added. -/
  states : Nat
  /-- The bytes that their ways out take. -/
  exits : Nat
deriving DecidableEq, Repr

namespace Automaton

/-- The automaton without a state. -/
def new : Automaton := ⟨0, 0⟩

/-- The bytes that an automaton takes. -/
def size (a : Automaton) : Nat := 32 * a.states + a.exits

end Automaton

/-- A step of building, which fails where the automaton would take too much. -/
abbrev Build := StateT Automaton Option

/-- Puts an automaton in the place of the one so far, unless it takes too much. -/
def extendTo (a : Automaton) : Build Unit := fun _ =>
  if a.size ≤ limit then some ((), a) else none

/-- Adds states with a total of `exits` bytes for their ways out; gives the number of
the first. -/
def addStates (count exits : Nat) : Build Nat := do
  let a ← get
  extendTo ⟨a.states + count, a.exits + exits⟩
  return a.states

/-- Adds a state. -/
def addState : Build Unit := do let _ ← addStates 1 0

/-- Adds ways out of forks. -/
def addWays (count : Nat) : Build Unit := do let _ ← addStates 0 (4 * count)

/-- Goes on behind a part, which takes a way out if the part ends in a fork. -/
def leave (fork : Bool) : Build Unit := if fork then addWays 1 else pure ()

/-- The way in which an automaton reads. -/
inductive Direction where
  | forwards
  | backwards
deriving DecidableEq, Repr

/-! ## Sets

States that lead to the same places are shared, as far as they are still known: they
are kept in numbered slots, and a new one takes the slot from an older one. -/

/-- The states that are still known: by slot what they lead to, and their number. -/
abbrev Known := Std.TreeMap Nat (List Nat × Nat)

/-- The slot that what a state leads to is kept in, one of `slots` many. -/
def slot (slots : Nat) (leads : List Nat) : Nat :=
  leads.foldl (fun h n => (h ^^^ n) * 0x100000001b3 % (1 <<< 64)) 0xcbf29ce484222325 % slots

/-- The number of a state with certain leads, a known one or else a new one with
`exits` bytes for its ways out. -/
def share (slots exits : Nat) (leads : List Nat) : StateT Known Build Nat := do
  let i := slot slots leads
  match (← get)[i]? with
  | some (known, number) => if known = leads then return number
  | none => pure ()
  let number ← addStates 1 exits
  modify (·.insert i (leads, number))
  return number

/-- A state for sequences of byte ranges, and the states behind it, up to the state
`stop`.  Sequences in a row with the same first range go to the same state. -/
def addSequences (stop : Nat) : (longest : Nat) → List (List (Nat × Nat)) →
    StateT Known Build Nat
  | 0, _ => return stop
  | longest + 1, seqs => do
    let leads ← (seqs.splitBy fun a b => a.head? == b.head?).mapM fun group => do
      let (lo, hi) := (group.head?.bind List.head?).getD (0, 0)
      let behind := group.map List.tail
      let next ← if behind.all List.isEmpty then pure stop
        else addSequences stop longest behind
      return [lo, hi, next]
    share 10000 (8 * leads.length) leads.flatten

/-- States for a sequence of byte ranges, the last of which is read first; the first
range leads to the state `stop`. -/
def addReversed (stop : Nat) (ranges : List (Nat × Nat)) : StateT Known Build Nat :=
  ranges.foldlM (fun next (lo, hi) => share 1000 0 [next, lo, hi]) stop

/-- Adds the states for a set.  For ASCII characters it is one table. -/
def addSet (d : Direction) (s : CharSet) : Build Bool := do
  if s.ranges.all (·.2 ≤ 0x7f) then
    let _ ← addStates 2 (8 * s.ranges.length)
    return false
  let seqs := ByteRanges.ofSet s
  match d with
  | .forwards =>
    let stop ← addStates 1 0
    let _ ← (addSequences stop 4 seqs).run ∅
    return false
  | .backwards =>
    addState
    let stop ← addStates 1 0
    -- a fork leads to every sequence
    let add (seq : List (Nat × Nat)) : StateT Known Build Unit := do
      let _ ← addReversed stop seq
      addWays 1
    let _ ← (seqs.forM add).run ∅
    return false

/-! ## Choices between literals

A choice between literals makes a tree, in which texts share the states of the bytes
with which they start. -/

/-- The texts between those that are empty. -/
def betweenEmpty : List (List Nat) → List (List (List Nat))
  | [] => [[]]
  | [] :: rest => [] :: betweenEmpty rest
  | text :: rest =>
    match betweenEmpty rest with
    | [] => [[text]]
    | texts :: more => (text :: texts) :: more

/-- What is left of the texts that start with a byte. -/
def behindByte (b : Nat) (texts : List (List Nat)) : List (List Nat) :=
  texts.filterMap fun
    | [] => none
    | c :: text => if c = b then some text else none

/-- Adds the states of a tree.  A text that ends at the root of the tree is a way out
of its own between those that go on before it and those that go on after it. -/
def addTree : (longest : Nat) → List (List Nat) → Build Unit
  | 0, _ => pure ()
  | longest + 1, texts => do
    -- nothing can lie between texts that end before any goes on
    let texts := match texts with
      | [] :: rest => [] :: rest.dropWhile List.isEmpty
      | texts => texts
    let runs := betweenEmpty texts
    runs.forM fun run => do
      let firsts := (run.filterMap List.head?).eraseDups
      if firsts.isEmpty then return
      let _ ← addStates 1 (if firsts.length = 1 then 0 else 8 * firsts.length)
      addWays 1
      firsts.forM fun b => do
        let behind := behindByte b run
        if behind.all List.isEmpty then return
        addTree longest behind
    addState
    addWays (runs.length - 1)

/-- The texts of a choice between literals. -/
def literals? (alternatives : List Node) : Option (List (List Char)) :=
  alternatives.mapM fun
    | .literal text => some text
    | _ => none

/-- Adds the states of a choice between literals, and the state behind it. -/
def addLiterals (d : Direction) (texts : List (List Char)) : Build Unit := do
  let bytes := texts.map fun text => text.flatMap fun c => ByteRanges.encode c.toNat
  let bytes := if d = .forwards then bytes else bytes.map List.reverse
  addState
  addTree ((bytes.map List.length).foldl max 0) bytes

/-! ## Repetitions

A part reports whether it ends in a fork, which then takes another way out. -/

/-- Adds `count` more copies of a part behind one that has been added. -/
def addCopies (part : Build Bool) : (count : Nat) → (fork : Bool) → Build Bool
  | 0, fork => return fork
  | count + 1, fork => do
    let next ← part
    leave fork
    addCopies part count next

/-- Adds exactly `count` copies of a part. -/
def addExactly (part : Build Bool) : (count : Nat) → Build Bool
  | 0 => do addState; return false
  | count + 1 => do addCopies part count (← part)

/-- Adds at most `count` more copies of a part; before each a fork leads past it. -/
def addUpTo (part : Build Bool) : (count : Nat) → (fork : Bool) → Build Unit
  | 0, fork => leave fork
  | count + 1, fork => do
    addState
    let next ← part
    leave fork
    addWays 2
    addUpTo part count next

/-- Adds a repetition with an upper limit. -/
def addLimited (part : Build Bool) (least most : Nat) : Build Bool := do
  if least = 0 ∧ most = 1 then
    addState
    let fork ← part
    addState
    addWays 2
    leave fork
    return false
  let fork ← addExactly part least
  if most = least then return fork
  addState
  addUpTo part (most - least) fork
  return false

/-- Adds a repetition without an upper limit. -/
def addUnlimited (part : Build Bool) (takesText : Bool) : (least : Nat) → Build Bool
  | 0 => do
    if takesText then
      addState
      let fork ← part
      addWays 1
      leave fork
      return true
    let fork ← part
    -- a fork for more rounds, and another one for none at all
    let _ ← addStates 3 0
    leave fork
    addWays 4
    return false
  | least + 1 => do
    let before ← if least = 0 then pure false else addExactly part least
    let fork ← part
    addState
    leave before
    leave fork
    addWays 1
    return true

/-! ## Patterns -/

/-- Adds a part that may be an alternative of a choice, `rank` others of which stand
before it.  The fork between the alternatives, and the state where they meet, are
added behind the second one. -/
def addRanked (rank : Option Nat) (part : Build Bool) : Build Bool :=
  match rank with
  | none => part
  | some rank => do
    let fork ← part
    if rank = 1 then
      let _ ← addStates 2 0
    addWays 1
    leave fork
    return false

/-- Adds a pattern, and reports whether it ends in a fork.  With a rank the pattern
holds the alternatives of a choice from that one on. -/
def addNode (d : Direction) : Node → (rank : Option Nat) → Build Bool
  | .empty, rank | .mark _, rank => addRanked rank do addState; return false
  | .literal text, rank => addRanked rank do
    let _ ← addStates (Text.width text) 0
    return false
  | .set s, rank => addRanked rank (addSet d s)
  | .group _ body, rank => addRanked rank do
    match d with
    | .backwards => addNode d body none
    | .forwards =>
      addState
      let fork ← addNode d body none
      addState
      leave fork
      return false
  | .seq first second, rank => addRanked rank do
    match d with
    | .forwards =>
      let fork ← addNode d first none
      let last ← addNode d second none
      leave fork
      return last
    | .backwards =>
      let fork ← addNode d second none
      let last ← addNode d first none
      leave fork
      return last
  | .alt first more, none =>
    match literals? (first :: more.alternatives) with
    | some texts => do addLiterals d texts; return false
    | none => do
      let _ ← addRanked (some 0) (addNode d first none)
      addNode d more (some 1)
  | .alt first more, some rank => do
    let _ ← addRanked (some rank) (addNode d first none)
    addNode d more (some (rank + 1))
  | .repeat body least most _, rank => addRanked rank do
    match most with
    | some most => addLimited (addNode d body none) least most
    | none => addUnlimited (addNode d body none) body.takesText least

/-- Adds all of an automaton: what skips bytes up to the start of a span, unless the
span lies at the end of the text, then the pattern as a group of its own, and the
state that is reached when it has been read. -/
def addPattern (d : Direction) (n : Node) : Build Unit := do
  let fixed := if d = .forwards then n.anchored else n.endsWith .textEnd
  if fixed then addState
  else
    let _ ← addStates 3 8
    addWays 2
  let fork ← addNode d (.group 0 n) none
  addState
  leave fork

/-- Whether the automata for a pattern can both be built. -/
def fits (n : Node) : Bool :=
  ((addPattern .forwards n).run .new).isSome && ((addPattern .backwards n).run .new).isSome

end TextTemplate.Pattern.Storage
