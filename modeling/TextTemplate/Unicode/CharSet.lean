/-! # Sets of characters

A set of characters is a list of inclusive ranges of code points, increasing
and apart from each other, so that a search can stop early.  `ofRanges` brings
any list of ranges into that form; the set operations keep it.  Tables of the
character database are written as text, `41-5a 61-7a`, and read by `ofText`.
`ByteRanges.ofSet` gives the bytes of the characters of a set. -/
namespace TextTemplate.Unicode

/-! ## Tables as text

Tables of the character database are long lists of code points.  They are kept as
text, with code points in lower-case hexadecimal and blanks or line breaks between
the entries, and read by the functions here. -/
namespace Table

/-- The pieces of a text between characters that satisfy `sep`. -/
def pieces (sep : Char → Bool) (cs : List Char) : List (List Char) :=
  cs.foldr (fun c acc =>
    if sep c then [] :: acc
    else
      match acc with
      | [] => [[c]]
      | w :: ws => (c :: w) :: ws) [[]]

/-- The pieces between blanks and line breaks that are not empty. -/
def words (cs : List Char) : List (List Char) :=
  (pieces (fun c => c == ' ' || c == '\n') cs).filter (!·.isEmpty)

/-- The value of a lower-case hexadecimal digit. -/
def hexDigit (c : Char) : Nat :=
  if '0' ≤ c ∧ c ≤ '9' then c.toNat - 48 else c.toNat - 87

/-- The value of a lower-case hexadecimal number. -/
def number (cs : List Char) : Nat :=
  cs.foldl (fun n c => n * 16 + hexDigit c) 0

/-- Ranges written as `lo-hi`, or as the one number in them. -/
def ranges (text : String) : List (Nat × Nat) :=
  (words text.toList).filterMap fun w =>
    match pieces (· == '-') w with
    | [n] => some (number n, number n)
    | [lo, hi] => some (number lo, number hi)
    | _ => none

/-- Rows of numbers, with commas between the rows. -/
def rows (text : String) : List (List Nat) :=
  (pieces (· == ',') text.toList).map fun row => (words row).map number

end Table

/-! ## Sets -/

/-- Inclusive ranges of code points in increasing order, none touching the next. -/
structure CharSet where
  ranges : List (Nat × Nat)
deriving DecidableEq, Repr, Inhabited

namespace CharSet

/-- The greatest code point. -/
def top : Nat := 0x10ffff

/-- Whether a code point lies in one of the increasing ranges. -/
def inRanges (n : Nat) : List (Nat × Nat) → Bool
  | [] => false
  | (lo, hi) :: rest => if n < lo then false else if n ≤ hi then true else inRanges n rest

/-- Whether the character belongs to the set. -/
def contains (s : CharSet) (c : Char) : Bool :=
  inRanges c.toNat s.ranges

/-- Joins the range from `lo` to `hi` and those after it where they overlap or touch;
none of them starts below `lo`, and they are ordered by lower end. -/
def joinFrom (lo hi : Nat) : List (Nat × Nat) → List (Nat × Nat)
  | [] => [(lo, hi)]
  | (lo', hi') :: rest =>
    if lo' ≤ hi + 1 then joinFrom lo (max hi hi') rest else (lo, hi) :: joinFrom lo' hi' rest

/-- Joins ranges that overlap or touch; the input is ordered by lower end. -/
def joinTouching : List (Nat × Nat) → List (Nat × Nat)
  | [] => []
  | (lo, hi) :: rest => joinFrom lo hi rest

/-- Puts a range into its place by lower end. -/
def insertRange (r : Nat × Nat) : List (Nat × Nat) → List (Nat × Nat)
  | [] => [r]
  | s :: rest => if r.1 ≤ s.1 then r :: s :: rest else s :: insertRange r rest

/-- The set of all code points in any of the ranges. -/
def ofRanges (rs : List (Nat × Nat)) : CharSet :=
  ⟨joinTouching (rs.foldr insertRange [])⟩

/-- The set with nothing in it. -/
def none : CharSet := ⟨[]⟩

/-- Every character. -/
def all : CharSet := ⟨[(0, top)]⟩

/-- The set of one character. -/
def single (c : Char) : CharSet := ⟨[(c.toNat, c.toNat)]⟩

/-- Puts `r` before the first range that starts behind it, and what `merge` makes
of the other ranges after it. -/
def mergeAfter (r : Nat × Nat) (merge : List (Nat × Nat) → List (Nat × Nat)) :
    List (Nat × Nat) → List (Nat × Nat)
  | [] => r :: merge []
  | s :: ss => if r.1 ≤ s.1 then r :: merge (s :: ss) else s :: mergeAfter r merge ss

/-- Merges two lists that are ordered by lower end. -/
def mergeRanges : List (Nat × Nat) → List (Nat × Nat) → List (Nat × Nat)
  | [], ss => ss
  | r :: rs, ss => mergeAfter r (mergeRanges rs) ss

/-- Characters in either set. -/
def union (s t : CharSet) : CharSet :=
  ⟨joinTouching (mergeRanges s.ranges t.ranges)⟩

/-- Characters in any of several sets. -/
def unionOf (sets : List CharSet) : CharSet := sets.foldl union none

/-- The gaps between increasing ranges, from `start` on. -/
def gaps (start : Nat) : List (Nat × Nat) → List (Nat × Nat)
  | [] => if start ≤ top then [(start, top)] else []
  | (lo, hi) :: rest =>
    if start < lo then (start, lo - 1) :: gaps (hi + 1) rest else gaps (hi + 1) rest

/-- Characters outside the set. -/
def complement (s : CharSet) : CharSet := ⟨gaps 0 s.ranges⟩

/-- Characters in both sets. -/
def inter (s t : CharSet) : CharSet := (s.complement.union t.complement).complement

/-- Characters of the first set that are not in the second. -/
def diff (s t : CharSet) : CharSet := s.inter t.complement

/-- Characters in exactly one of the sets. -/
def symmDiff (s t : CharSet) : CharSet := (s.diff t).union (t.diff s)

/-- The set without the code points that are no characters. -/
def scalars (s : CharSet) : CharSet :=
  ⟨s.ranges.flatMap fun (lo, hi) =>
    if hi < 0xd800 ∨ 0xdfff < lo then [(lo, hi)]
    else (if lo < 0xd800 then [(lo, 0xd7ff)] else []) ++
      (if 0xdfff < hi then [(0xe000, hi)] else [])⟩

/-- Whether no character is in the set. -/
def isEmpty (s : CharSet) : Bool := s.ranges.isEmpty

/-- A table of increasing ranges written as text. -/
def ofText (text : String) : CharSet :=
  ⟨Table.ranges text⟩

end CharSet

/-! ## Characters as bytes

In UTF-8 a character takes between one and four bytes.  Whether a byte text is a
character of some set can be seen byte by byte: `ofSet` gives sequences of byte
ranges, and the characters of the set are those whose bytes lie in the ranges of one
of the sequences.  The sequences are in the order of the characters and no character
fits two of them. -/
namespace ByteRanges

/-- The bytes of a code point. -/
def encode (n : Nat) : List Nat :=
  if n < 0x80 then [n]
  else if n < 0x800 then [0xc0 + n / 64, 0x80 + n % 64]
  else if n < 0x10000 then [0xe0 + n / 4096, 0x80 + n / 64 % 64, 0x80 + n % 64]
  else [0xf0 + n / 262144, 0x80 + n / 4096 % 64, 0x80 + n / 64 % 64, 0x80 + n % 64]

/-- Cuts a range where a block of one of the sizes starts, the sizes being ordered
from the smallest, such that every piece lies in one block or covers whole ones. -/
def cutAtBlocks : List Nat → Nat → Nat → List (Nat × Nat)
  | [], lo, hi => [(lo, hi)]
  | size :: sizes, lo, hi =>
    if lo / size = hi / size then [(lo, hi)] else
    -- the whole blocks lie between `first` and `stop`
    let first := (lo + size - 1) / size * size
    let stop := (hi + 1) / size * size
    (if lo < first then [(lo, first - 1)] else []) ++
      (if first < stop then cutAtBlocks sizes first (stop - 1) else []) ++
      (if stop ≤ hi then [(stop, hi)] else [])

/-- The part of a range that lies in another. -/
def meet (lo hi : Nat) (block : Nat × Nat) : List (Nat × Nat) :=
  let lo := max lo block.1
  let hi := min hi block.2
  if lo ≤ hi then [(lo, hi)] else []

/-- The sequences for the characters of a range.  All bytes behind one that differs
between the ends of a piece may take any value that they can have at all. -/
def ofRange (lo hi : Nat) : List (List (Nat × Nat)) :=
  let long := [(0x80, 0x7ff), (0x800, 0xd7ff), (0xe000, 0xffff), (0x10000, CharSet.top)]
  let pieces := meet lo hi (0, 0x7f) ++ (long.flatMap (meet lo hi)).flatMap fun (lo, hi) =>
    cutAtBlocks [64, 4096, 262144] lo hi
  pieces.map fun (lo, hi) => (encode lo).zip (encode hi)

/-- The sequences for the characters of a set. -/
def ofSet (s : CharSet) : List (List (Nat × Nat)) :=
  s.ranges.flatMap fun (lo, hi) => ofRange lo hi

end ByteRanges
end TextTemplate.Unicode
