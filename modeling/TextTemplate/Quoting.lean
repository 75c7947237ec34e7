import TextTemplate.Pattern.Compiled
import TextTemplate.Text.Bytes

/-! # Ways of quoting

Names and parameters may be quoted, so that delimiters inside them are text.  A
way of quoting answers two questions about the text at hand: does a quoted span
start here (`starts`), and if so how many bytes does it take and what does it
contribute (`extract`).  A span of no bytes means that there is none.

Ways of quoting are tried one after the other in a chain.  A chain is made of all its
members at once, or grown from the empty chain one member at a time, and is a way of
quoting itself; so chains may be members of chains (`QuoteChain`). -/
namespace TextTemplate

/-- A quoted span: its length in bytes and the text it stands for. -/
structure Quoted where
  consumed : Nat
  content : List Char
deriving DecidableEq, Repr

/-- No quoted span. -/
def Quoted.nothing : Quoted := ⟨0, []⟩

/-- A way of quoting. -/
inductive Quoting where
  /-- A pattern whose groups from the second on hold the content. -/
  | pattern (p : Pattern)
  /-- Balanced spans between an opening and a closing character. -/
  | braces (opening closing : Char)
  /-- The first of several ways that finds a span. -/
  | chain (members : List Quoting)
  /-- A way given by its two answers. -/
  | custom (starts : List Char → Bool) (extract : List Char → Quoted)

namespace Quoting

/-! ## Balanced braces

A span in braces runs from an opening character to the closing character that
balances it.  Braces inside the span count, a character behind a backslash does
not.  `splitBalanced` finds the closing character behind other braces that are open, and
`splitOpened` behind the first one. -/

/-- The text before the character that closes `depth + 1` open braces, and the
text after it. -/
def splitBalanced (opening closing : Char) : Nat → List Char → Option (List Char × List Char)
  | _, [] => none
  | depth, c :: cs =>
    if c = '\\' then
      match cs with
      | [] => none
      | d :: cs => (splitBalanced opening closing depth cs).map fun (t, u) => (c :: d :: t, u)
    else if c = opening then
      (splitBalanced opening closing (depth + 1) cs).map fun (t, u) => (c :: t, u)
    else if c = closing then
      match depth with
      | 0 => some ([], cs)
      | depth + 1 => (splitBalanced opening closing depth cs).map fun (t, u) => (c :: t, u)
    else (splitBalanced opening closing depth cs).map fun (t, u) => (c :: t, u)

/-- The inside and the rest of a split make up the text, with the closing
character between them. -/
theorem eq_append_of_splitBalanced {opening closing : Char} {depth : Nat}
    {cs t u : List Char} (h : splitBalanced opening closing depth cs = some (t, u)) :
    cs = t ++ closing :: u := by
  fun_induction splitBalanced opening closing depth cs generalizing t with
  | case1 => cases h
  | case2 => cases h
  | case3 depth d cs ih =>
    obtain ⟨⟨t, u⟩, hsplit, heq⟩ := Option.map_eq_some_iff.mp h
    cases heq
    rw [ih hsplit]
    rfl
  | case4 depth cs hc ih =>
    obtain ⟨⟨t, u⟩, hsplit, heq⟩ := Option.map_eq_some_iff.mp h
    cases heq
    rw [ih hsplit]
    rfl
  | case5 cs hc ho =>
    cases h
    rfl
  | case6 cs hc ho depth ih =>
    obtain ⟨⟨t, u⟩, hsplit, heq⟩ := Option.map_eq_some_iff.mp h
    cases heq
    rw [ih hsplit]
    rfl
  | case7 depth c cs hb ho hc ih =>
    obtain ⟨⟨t, u⟩, hsplit, heq⟩ := Option.map_eq_some_iff.mp h
    cases heq
    rw [ih hsplit]
    rfl

/-- Splits the text behind an opening character where that character is closed.  A
backslash is an escape also where it is the opening character, and so it opens nothing
that could be closed. -/
def splitOpened (opening closing : Char) (cs : List Char) : Option (List Char × List Char) :=
  if opening = '\\' then none else splitBalanced opening closing 0 cs

theorem splitOpened_of_ne {opening : Char} (h : opening ≠ '\\') (closing : Char)
    (cs : List Char) : splitOpened opening closing cs = splitBalanced opening closing 0 cs := by
  rw [splitOpened, if_neg h]

theorem eq_append_of_splitOpened {opening closing : Char} {cs t u : List Char}
    (h : splitOpened opening closing cs = some (t, u)) : cs = t ++ closing :: u := by
  unfold splitOpened at h
  split at h
  · cases h
  · exact eq_append_of_splitBalanced h

/-! ## The answers -/

/-- Replaces the first two backslashes in a row by one. -/
def unescapeFirst : List Char → List Char
  | '\\' :: '\\' :: rest => '\\' :: rest
  | c :: rest => c :: unescapeFirst rest
  | [] => []

/-- The span that a pattern quotes. -/
def extractPattern (p : Pattern) (text : List Char) : Quoted :=
  match p.find? text with
  | none => .nothing
  | some m => ⟨m.length, unescapeFirst (p.groupTexts 2 m).flatten⟩

/-- The balanced span at the front of a text; it runs to the end if it is not
closed. -/
def extractBraces (opening closing : Char) : List Char → Quoted
  | [] => .nothing
  | c :: cs =>
    if c = opening then
      match splitOpened opening closing cs with
      | some (inside, _) => ⟨Text.width (c :: inside) + closing.utf8Size, inside⟩
      | none => ⟨Text.width (c :: cs), cs⟩
    else .nothing

mutual

/-- Whether a quoted span may start here. -/
def starts : Quoting → List Char → Bool
  | .pattern p, text => p.isMatch text
  | .braces opening _, text => text.head? == some opening
  | .chain members, text => startsAny members text
  | .custom test _, text => test text

/-- Whether a span of any of several kinds may start here. -/
def startsAny : List Quoting → List Char → Bool
  | [], _ => false
  | q :: qs, text => starts q text || startsAny qs text

end

mutual

/-- The quoted span at the front of a text. -/
def extract : Quoting → List Char → Quoted
  | .pattern p, text => extractPattern p text
  | .braces opening closing, text => extractBraces opening closing text
  | .chain members, text => extractFirst members text
  | .custom _ span, text => span text

/-- The span of the first kind that may start here and takes any text. -/
def extractFirst : List Quoting → List Char → Quoted
  | [], _ => .nothing
  | q :: qs, text =>
    if starts q text && 0 < (extract q text).consumed then extract q text
    else extractFirst qs text

end

/-- The span to take from a text: its own text, its content and the text behind
it.  A span that is empty, too long, or ends inside a character is not taken. -/
def take? (q : Quoting) (text : List Char) : Option (List Char × List Char × List Char) :=
  if starts q text then
    let span := extract q text
    if span.consumed = 0 then none else
    (Text.cut? span.consumed text).map fun (taken, rest) => (taken, span.content, rest)
  else none

/-- A span is taken where the way of quoting finds it, if it is a non-empty piece of the front
of the text. -/
theorem take?_eq_some_iff {q : Quoting} {text taken content rest : List Char} :
    q.take? text = some (taken, content, rest) ↔
      q.starts text = true ∧ q.extract text = ⟨Text.width taken, content⟩ ∧
        text = taken ++ rest ∧ taken ≠ [] := by
  constructor
  · intro h
    simp only [take?, Option.ite_none_right_eq_some, Option.ite_none_left_eq_some,
      Option.map_eq_some_iff] at h
    obtain ⟨hstarts, hconsumed, ⟨taken', rest'⟩, hcut, heq⟩ := h
    cases heq
    obtain ⟨htext, hwidth⟩ := Text.eq_append_of_cut? hcut
    refine ⟨hstarts, by rw [hwidth], htext, ?_⟩
    rintro rfl
    exact hconsumed hwidth.symm
  · rintro ⟨hstarts, hextract, rfl, hne⟩
    have hconsumed : Text.width taken ≠ 0 := Nat.pos_iff_ne_zero.mp (Text.width_pos hne)
    simp [take?, hstarts, hextract, hconsumed, Text.cut?_width_append]

/-- What is taken is a non-empty piece of the front of the text. -/
theorem eq_append_of_take? {q : Quoting} {text taken content rest : List Char}
    (h : q.take? text = some (taken, content, rest)) : text = taken ++ rest ∧ taken ≠ [] :=
  (take?_eq_some_iff.mp h).2.2

end Quoting

/-! ## Chains -/

/-- Several ways of quoting, in the order in which they are tried. -/
structure QuoteChain where
  members : List Quoting

namespace QuoteChain

/-- The chain without members. -/
def empty : QuoteChain := ⟨[]⟩

/-- The chain with one more member, behind the others. -/
def andThen (c : QuoteChain) (q : Quoting) : QuoteChain := ⟨c.members ++ [q]⟩

/-- A chain as a way of quoting. -/
def toQuoting (c : QuoteChain) : Quoting := .chain c.members

@[simp] theorem members_empty : empty.members = [] := rfl

@[simp] theorem members_andThen (c : QuoteChain) (q : Quoting) :
    (c.andThen q).members = c.members ++ [q] := rfl

end QuoteChain

end TextTemplate
