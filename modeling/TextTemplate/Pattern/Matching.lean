import TextTemplate.Pattern.Node
import TextTemplate.Text.Bytes
import TextTemplate.Unicode.Property

/-! # Matching patterns

`outcomes` lists every place where a pattern can end when it starts at one of the
given places, the preferred one first: an earlier alternative before a later one,
more repetitions before fewer if the repetition is greedy.  Two ways of ending at
the same place differ only in what they remember, so only the preferred one is kept;
that bounds the lists by the length of the text.

A repetition without an upper limit could go round for ever if a round took no
text.  So between two characters no way passes the same choice twice: a round that
takes no text and comes back to where it started is no way of going on.  Inside such
a repetition every choice has an `Address`, and a cursor knows the choices that it
has passed since the last character.

`search` takes the preferred outcome at the first place where there is one. -/
namespace TextTemplate.Pattern

/-- Where a part of a repetition stands: the numbers of the parts and rounds that
lead to it, innermost first. -/
abbrev Address := List Nat

/-- The address of a part, unless no round around it can be empty, so that none of
its choices comes back without text taken. -/
abbrev Site := Option Address

/-- The site of a part, or of a round. -/
def Site.part (s : Site) (i : Nat) : Site := s.map (i :: ·)

/-- A place in the text, and what is remembered of the way there. -/
structure Cursor where
  /-- The character before the place, if any. -/
  before : Option Char
  /-- How many characters lie between the start of the match and here. -/
  offset : Nat
  /-- The text from here on. -/
  rest : List Char
  /-- The text of each group that has been matched, by number. -/
  groups : List (Nat × List Char)
  /-- The choices passed since the last character. -/
  passed : List Address
deriving Repr, DecidableEq

namespace Cursor

/-- The place after the next character, which is `c`. -/
def advance (k : Cursor) (c : Char) (rest : List Char) : Cursor :=
  ⟨some c, k.offset + 1, rest, k.groups, []⟩

/-- The place after a text, if it comes next. -/
def afterText : List Char → Cursor → Option Cursor
  | [], k => some k
  | c :: cs, k =>
    match k.rest with
    | [] => none
    | d :: rest => if d = c then afterText cs (k.advance d rest) else none

/-- Passes the choice at a site, unless that has been done since the last
character. -/
def pass (s : Site) (k : Cursor) : List Cursor :=
  match s with
  | none => [k]
  | some a => if k.passed.contains a then [] else [{ k with passed := a :: k.passed }]

/-- Enters a repetition.  The addresses in an outermost one are its own, so the
choices passed before it do not count. -/
def enter (s : Site) (k : Cursor) : Cursor := if s.isNone then { k with passed := [] } else k

/-- Remembers the text of a group; an earlier text of the group is forgotten. -/
def remember (k : Cursor) (index : Nat) (text : List Char) : Cursor :=
  { k with groups := (index, text) :: k.groups.filter (·.1 != index) }

/-- The text between two places. -/
def textTo (start stop : Cursor) : List Char :=
  start.rest.take (stop.offset - start.offset)

end Cursor

/-- The characters that make up words. -/
def WordKind.contains : WordKind → Char → Bool
  | .unicode, c => Unicode.Property.word.contains c
  | .ascii, c => c.isAlphanum || c == '_'

/-- Whether a mark holds between two characters, either of which may be missing. -/
def Mark.holds (m : Mark) (before after : Option Char) : Bool :=
  let word (kind : WordKind) (c : Option Char) : Bool := c.any kind.contains
  match m with
  | .textStart => before.isNone
  | .textEnd => after.isNone
  | .lineStart => before.all (· == '\n')
  | .lineEnd => after.all (· == '\n')
  | .lineStartCR =>
    before.all fun c => c == '\n' || (c == '\r' && after != some '\n')
  | .lineEndCR =>
    after.all fun c => c == '\r' || (c == '\n' && before != some '\r')
  | .wordBoundary kind => word kind before != word kind after
  | .notWordBoundary kind => word kind before == word kind after
  | .wordStart kind => !word kind before && word kind after
  | .wordEnd kind => word kind before && !word kind after
  | .wordStartHalf kind => !word kind before
  | .wordEndHalf kind => !word kind after

/-- Keeps the first outcome at each place; `seen` has a bit for each offset met. -/
def distinct (seen : Nat) : List Cursor → List Cursor
  | [] => []
  | k :: ks =>
    if seen.testBit k.offset then distinct seen ks
    else k :: distinct (seen ||| 1 <<< k.offset) ks

/-- A tour through the rounds of a repetition. -/
structure Tour where
  /-- The places where the next round has started before, one bit for each, then
  those of the round after it, and so on.  Where the number of rounds has no limit,
  all rounds are one. -/
  started : List Nat
  /-- The places where the repetition can end, latest first. -/
  found : List Cursor

namespace Tour

/-- No round has started. -/
def new : Tour := ⟨[], []⟩

/-- Notes a place where the repetition can end. -/
def add (t : Tour) (k : Cursor) : Tour := { t with found := k :: t.found }

/-- Whether the next round has started at `k` before. -/
def hasStarted (t : Tour) (k : Cursor) : Bool := (t.started.headD 0).testBit k.offset

/-- Starts the next round at `k`. -/
def start (t : Tour) (k : Cursor) : Tour :=
  { t with started := (t.started.headD 0 ||| 1 <<< k.offset) :: t.started.tail }

/-- Goes on behind the next round. -/
def behind (t : Tour) (go : Tour → Tour) : Tour :=
  let u := go { t with started := t.started.tail }
  { u with started := t.started.headD 0 :: u.started }

/-- The places found, preferred first. -/
def outcomes (t : Tour) : List Cursor := distinct 0 t.found.reverse

end Tour

/-- At `k` a repetition without an upper limit either goes round once more, and on
from wherever the round can end, or ends; it rather goes round if it is `greedy`.
No two rounds start at the same place, so `fuel` need not exceed the length of the
text by more than one. -/
def tour (s : Site) (round : List Cursor → List Cursor) (greedy : Bool) :
    Nat → Cursor → Tour → Tour
  | 0, _, t => t
  | fuel + 1, k, t =>
    if t.hasStarted k then t else
    (k.pass s).foldl (fun t k =>
      let further (t : Tour) : Tour :=
        (round [k]).foldl (fun t e => tour s round greedy fuel e t) t
      if greedy then (further t).add k else further (t.add k)) (t.start k)

/-- The places where a repetition without an upper limit can end, once the rounds
that must be there have ended at one of `starts`. -/
def tours (s : Site) (round : List Cursor → List Cursor) (greedy : Bool)
    (starts : List Cursor) : List Cursor :=
  (starts.foldl (fun t k => tour s round greedy (k.rest.length + 1) k t) .new).outcomes

/-- At `k` a repetition with at most `n` more rounds either goes round once more, and
on from wherever the round can end, or ends.  Each round is a part of its own,
numbered from `first` on, and starts at no place twice. -/
def limitedTour (s : Site) (round : Site → List Cursor → List Cursor) (greedy : Bool) :
    (n : Nat) → (first : Nat) → Cursor → Tour → Tour
  | 0, _, k, t => t.add k
  | n + 1, first, k, t =>
    if t.hasStarted k then t else
    let site := s.part first
    (k.pass site).foldl (fun t k =>
      let further (t : Tour) : Tour := t.behind fun t =>
        (round (site.part 0) [k]).foldl
          (fun t e => limitedTour s round greedy n (first + 1) e t) t
      if greedy then (further t).add k else further (t.add k)) (t.start k)

/-- The places where a repetition with at most `n` more rounds can end, once the
`first` rounds, which must be there, have ended at one of `starts`. -/
def limitedTours (s : Site) (round : Site → List Cursor → List Cursor) (greedy : Bool)
    (n first : Nat) (starts : List Cursor) : List Cursor :=
  (starts.foldl (fun t k => limitedTour s round greedy n first k t) .new).outcomes

/-- Exactly `n` rounds, each a part of its own numbered from `first` on. -/
def exactly (s : Site) (round : Site → List Cursor → List Cursor) :
    (n : Nat) → (first : Nat) → List Cursor → List Cursor
  | 0, _, ks => ks
  | n + 1, first, ks => exactly s round n (first + 1) (round (s.part first) ks)

/-- The places where a pattern that stands at `s` can end when it starts at one of
several places, preferred first. -/
def outcomes : Node → Site → List Cursor → List Cursor
  | .empty, _, ks => ks
  | .literal text, _, ks => ks.filterMap (·.afterText text)
  | .set set, _, ks => ks.filterMap fun k =>
    match k.rest with
    | [] => none
    | c :: rest => if set.contains c then some (k.advance c rest) else none
  | .mark m, _, ks => ks.filter fun k => m.holds k.before k.rest.head?
  | .group index body, s, ks => distinct 0 (ks.flatMap fun k =>
    (outcomes body s [k]).map fun e => e.remember index (k.textTo e))
  | .seq first second, s, ks => outcomes second (s.part 1) (outcomes first (s.part 0) ks)
  | .alt first second, s, ks => distinct 0 (ks.flatMap fun k => (k.pass s).flatMap fun k =>
    outcomes first (s.part 0) [k] ++ outcomes second (s.part 1) [k])
  -- the rounds that must be there come first and have no choice in their number
  | .repeat body least (some most) greedy, s, ks =>
    limitedTours s (outcomes body) greedy (most - least) least
      (exactly s (outcomes body) least 0 ks)
  | .repeat body least none greedy, s, ks =>
    let loop : Site := if body.takesText then s.part 0 else some (0 :: s.getD [])
    let round := outcomes body (loop.part 0)
    match least with
    | 0 =>
      if body.takesText then tours loop round greedy (ks.map (·.enter s)) else
      -- whether to start at all is a choice of its own
      distinct 0 (ks.flatMap fun k => ((k.enter s).pass (loop.part 1)).flatMap fun k =>
        let rounds := tours loop round greedy (round [k])
        if greedy then rounds ++ [k] else k :: rounds)
    | n + 1 =>
      tours loop round greedy
        (round ((exactly s (outcomes body) n 1 ks).map (·.enter s)))

/-- A span found by a search. -/
structure Match where
  /-- How many bytes lie before the span. -/
  start : Nat
  /-- The text of the span. -/
  text : List Char
  /-- The text of each group that took part, by number. -/
  groups : List (Nat × List Char)
deriving Repr, DecidableEq

namespace Match

/-- The length of the span in bytes. -/
def length (m : Match) : Nat := Text.width m.text

/-- The text of a group, if it took part. -/
def group? (m : Match) (index : Nat) : Option (List Char) := m.groups.lookup index

end Match

/-- The preferred match that starts right here, `skipped` bytes into the text. -/
def matchHere (n : Node) (before : Option Char) (skipped : Nat) (rest : List Char) :
    Option Match :=
  let k : Cursor := ⟨before, 0, rest, [], []⟩
  (outcomes n none [k]).head?.map fun e => ⟨skipped, k.textTo e, e.groups⟩

/-- The first match in the text, `before` and `skipped` bytes of which lie behind. -/
def search (n : Node) (before : Option Char) (skipped : Nat) : List Char → Option Match
  | [] => matchHere n before skipped []
  | c :: cs =>
    match matchHere n before skipped (c :: cs) with
    | some m => some m
    | none => search n (some c) (skipped + c.utf8Size) cs

end TextTemplate.Pattern
