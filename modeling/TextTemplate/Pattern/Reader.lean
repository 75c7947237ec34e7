import TextTemplate.Number.Text
import TextTemplate.Pattern.Classes
import TextTemplate.Pattern.Storage
import TextTemplate.Unicode.Property
import TextTemplate.Unicode.Casing

/-! # Reading pattern text

The text of a pattern is read into a `Node` in one pass.  Options such as `(?i)`
change how the rest of the enclosing group is read, so they are part of the
reader's state; nothing of them is left in the tree.  There is no look-around and
there are no references back to groups: a pattern that uses them is refused. -/
namespace TextTemplate.Pattern

open Unicode

/-- Why a text is not a pattern. -/
inductive PatternError where
  | unclosedGroup
  | unopenedGroup
  | unclosedClass
  | badClassRange
  | badClassItem
  | nothingToRepeat
  | badRepetition
  | badEscape
  | backreference
  | lookAround
  | badFlags
  | badGroupName
  | unknownClass
  | notText
  | tooDeep
  | tooLarge
deriving DecidableEq, Repr

/-- What reading gives unless the text is not a pattern. -/
abbrev Read := Except PatternError

/-- How the text at hand is read. -/
structure Options where
  ignoreCase : Bool := false
  multiLine : Bool := false
  dotMatchesNewline : Bool := false
  swapGreed : Bool := false
  unicode : Bool := true
  carriageReturns : Bool := false
  ignoreSpace : Bool := false
deriving DecidableEq, Repr

/-- The text that is left, the options in force, and the groups met so far. -/
structure ReadState where
  rest : List Char
  options : Options
  nextGroup : Nat
  names : List (List Char)
deriving Repr

namespace ReadState

/-- The state with other text left. -/
def withRest (s : ReadState) (rest : List Char) : ReadState := { s with rest := rest }

/-- What is left after blanks and comments. -/
def dropSpace : Bool → List Char → List Char
  | _, [] => []
  | true, c :: cs => dropSpace (c != '\n') cs
  | false, c :: cs =>
    if Property.whiteSpace.contains c then dropSpace false cs
    else if c == '#' then dropSpace true cs
    else c :: cs

/-- Skips blanks and comments, where the options say that they do not count. -/
def skip (s : ReadState) : ReadState :=
  if s.options.ignoreSpace then s.withRest (dropSpace false s.rest) else s

/-- The next character, past blanks and the sign of a comment where the options say
that they do not count; what the comment says is not passed over.  Where nothing is
left behind them, the blanks count. -/
def peek (s : ReadState) : Option Char :=
  let dropBlanks := List.dropWhile Property.whiteSpace.contains
  let past := match dropBlanks s.rest with
    | '#' :: rest => dropBlanks rest
    | rest => rest
  if s.options.ignoreSpace && !past.isEmpty then past.head? else s.rest.head?

/-- The characters from here on that satisfy `keep`, with blanks and comments that
do not count in between and behind. -/
def spanWhile (keep : Char → Bool) : Nat → ReadState → List Char × ReadState
  | 0, s => ([], s)
  | fuel + 1, s =>
    match s.rest with
    | [] => ([], s)
    | c :: rest =>
      if !keep c then ([], s) else
      let (cs, s) := spanWhile keep fuel (s.withRest rest).skip
      (c :: cs, s)

end ReadState

/-- A piece of a sequence.  Options and empty pieces cannot be repeated.  `depth`
counts the constructs inside one another. -/
structure Item where
  node : Node
  depth : Nat
  repeatable : Bool

/-- The most constructs that may stand inside one another. -/
def depthLimit : Nat := 250

/-! ## Characters and classes -/

/-- What an escape inside or outside a class stands for. -/
inductive Primitive where
  | literal (c : Char)
  | chars (s : CharSet)
  | mark (m : Mark)

/-- Every set that differs from `s` only in case, joined. -/
def closeCase (o : Options) (s : CharSet) : CharSet :=
  if !o.ignoreCase then s
  else if o.unicode then Casing.closeUnderFolding s
  else
    let letters (lo hi shift : Nat) (up : Bool) : List (Nat × Nat) :=
      (s.inter ⟨[(lo, hi)]⟩).ranges.map fun (a, b) =>
        if up then (a - shift, b - shift) else (a + shift, b + shift)
    s.union (.ofRanges (letters 65 90 32 false ++ letters 97 122 32 true))

/-- The complement of a class.  Without Unicode a complement holds bytes that are
no text, so it is refused. -/
def negateClass (o : Options) (s : CharSet) : Read CharSet :=
  if o.unicode then .ok s.complement else .error .notText

/-- The pattern of a single character. -/
def literalNode (o : Options) (c : Char) : Node :=
  .ofSet (closeCase o (.single c))

/-- A set of a letter class, or its complement for the capital letter. -/
def readLetterClass (o : Options) (c : Char) : Read CharSet :=
  match Classes.letterClass? o.unicode c.toLower with
  | none => .error .unknownClass
  | some s => if c.isUpper then negateClass o s else .ok s

/-- The character with a code point. -/
def scalar? (n : Nat) : Read Char :=
  if n.isValidChar then .ok (Char.ofNat n) else .error .badEscape

/-- The next character of the text, after blanks that do not count. -/
def nextChar (s : ReadState) : Read (Char × ReadState) :=
  match s.skip.rest with
  | [] => .error .badEscape
  | c :: rest => .ok (c, s.withRest rest)

/-- A fixed number of characters, with blanks that do not count in between. -/
def nextChars : Nat → ReadState → Read (List Char × ReadState)
  | 0, s => .ok ([], s)
  | n + 1, s => do
    let (c, s) ← nextChar s
    let (cs, s) ← nextChars n s
    .ok (c :: cs, s)

/-- The characters up to a closing brace, which is read as well. -/
def untilBrace : Nat → ReadState → Read (List Char × ReadState)
  | 0, _ => .error .badEscape
  | fuel + 1, s => do
    let (c, s) ← nextChar s
    if c == '}' then .ok ([], s) else
    let (cs, s) ← untilBrace fuel s
    .ok (c :: cs, s)

/-- A code point in hexadecimal: `width` digits, or any number of them in braces. -/
def readHex (width : Nat) (s : ReadState) : Read (Char × ReadState) := do
  let (c, after) ← nextChar s
  if c == '{' then
    let (digits, s) ← untilBrace (after.rest.length + 1) after
    if digits.isEmpty then .error .badEscape else
    match numberIn? 16 digits with
    | none => .error .badEscape
    | some n => .ok (← scalar? n, s)
  else
    let (digits, s) ← nextChars width s
    match numberIn? 16 digits with
    | none => .error .badEscape
    | some n =>
      let c ← scalar? n
      -- without Unicode two digits stand for a byte, which from 80 on is no text
      if !s.options.unicode && width == 2 && 0x7f < n then .error .notText else .ok (c, s)

/-- Splits a class name at the sign between a property and its value; the flag is
set if the sign negates. -/
def splitClassName (name : List Char) : List Char × Option (Bool × List Char) :=
  let splitAt (found : List Char → Bool) : Option (List Char × List Char) :=
    (List.range name.length).findSome? fun i =>
      if found (name.drop i) then some (name.take i, name.drop i) else none
  -- `!=` is looked for first because it holds the sign `=`
  match splitAt (fun cs => cs.take 2 == ['!', '=']) with
  | some (a, b) => (a, some (true, b.drop 2))
  | none =>
    match splitAt (fun cs => cs.head? == some ':') with
    | some (a, b) => (a, some (false, b.drop 1))
    | none =>
      match splitAt (fun cs => cs.head? == some '=') with
      | some (a, b) => (a, some (false, b.drop 1))
      | none => (name, none)

/-- A class of the character database, after its `p` or `P`. -/
def readNamedClass (negated : Bool) (s : ReadState) : Read (CharSet × ReadState) := do
  let (c, after) ← nextChar s
  let (name, s) ←
    if c == '{' then untilBrace (after.rest.length + 1) after
    else if c == '\\' then .error .unknownClass
    else .ok ([c], after)
  if !s.options.unicode then .error .notText else
  let (name, value) := if c == '{' then splitClassName name else (name, none)
  let (found, flip) := match value with
    | none => (Classes.named? name, false)
    | some (flip, value) => (Classes.valued? name value, flip)
  match found with
  | none => .error .unknownClass
  | some set =>
    let set := closeCase s.options set
    .ok (if negated != flip then set.complement else set, s)

/-- Characters with a meaning of their own, which a backslash takes away. -/
def isMeta (c : Char) : Bool :=
  "\\.+*?()|[]\x7b\x7d^$#&-~".toList.contains c

/-- The kind of word mark that the options ask for. -/
def Options.wordKind (o : Options) : WordKind := if o.unicode then .unicode else .ascii

/-- A word boundary, or one of its halves named in braces.  Braces that hold
anything but letters and hyphens belong to a repetition. -/
def readBoundary (s : ReadState) : Read (Mark × ReadState) :=
  let kind := s.options.wordKind
  let plain : Read (Mark × ReadState) := .ok (.wordBoundary kind, s)
  match s.rest with
  | '{' :: rest =>
    let isName (c : Char) : Bool := c.isAlpha || c == '-'
    let start := (s.withRest rest).skip
    match start.rest with
    | [] => .error .badRepetition
    | c :: _ =>
      if !isName c then plain else
      let (name, s) := start.spanWhile isName start.rest.length
      match s.rest with
      | '}' :: rest =>
        match String.ofList name with
        | "start" => .ok (.wordStart kind, s.withRest rest)
        | "end" => .ok (.wordEnd kind, s.withRest rest)
        | "start-half" => .ok (.wordStartHalf kind, s.withRest rest)
        | "end-half" => .ok (.wordEndHalf kind, s.withRest rest)
        | _ => .error .badEscape
      | _ => .error .badEscape
  | _ => plain

/-- What follows a backslash. -/
def readEscape (s : ReadState) : Read (Primitive × ReadState) :=
  match s.rest with
  | [] => .error .badEscape
  | c :: rest =>
    let after := s.withRest rest
    let kind := s.options.wordKind
    let literal (c : Char) : Read (Primitive × ReadState) := .ok (.literal c, after)
    let mark (m : Mark) : Read (Primitive × ReadState) := .ok (.mark m, after)
    if c.isDigit then .error .backreference else
    match c with
    | 'x' => (readHex 2 after).map fun (c, s) => (.literal c, s)
    | 'u' => (readHex 4 after).map fun (c, s) => (.literal c, s)
    | 'U' => (readHex 8 after).map fun (c, s) => (.literal c, s)
    | 'p' => (readNamedClass false after).map fun (set, s) => (.chars set, s)
    | 'P' => (readNamedClass true after).map fun (set, s) => (.chars set, s)
    | 'd' | 's' | 'w' | 'D' | 'S' | 'W' =>
      (readLetterClass s.options c).map fun set => (.chars set, after)
    | 'a' => literal '\x07'
    | 'f' => literal '\x0c'
    | 't' => literal '\t'
    | 'n' => literal '\n'
    | 'r' => literal '\r'
    | 'v' => literal '\x0b'
    | 'A' => mark .textStart
    | 'z' => mark .textEnd
    | 'b' => (readBoundary after).map fun (m, s) => (.mark m, s)
    | 'B' => mark (.notWordBoundary kind)
    | '<' => mark (.wordStart kind)
    | '>' => mark (.wordEnd kind)
    | c =>
      if isMeta c || (c.toNat < 0x80 && !c.isAlphanum) then literal c else .error .badEscape

/-- One end of a class range, or a class within a class. -/
def readClassItem (s : ReadState) : Read (Primitive × ReadState) :=
  match s.rest with
  | [] => .error .unclosedClass
  | '\\' :: rest => readEscape (s.withRest rest)
  | c :: rest => .ok (.literal c, s.withRest rest)

/-- The set of a class item that is not the start of a range. -/
def Primitive.toSet (o : Options) : Primitive → Read CharSet
  | .literal c => if !o.unicode && 0x7f < c.toNat then .error .notText else .ok (.single c)
  | .chars s => .ok s
  | .mark _ => .error .badClassItem

/-- An item of a class, or a range between two characters. -/
def readClassRange (s : ReadState) : Read (CharSet × ReadState) := do
  let (first, s) ← readClassItem s
  let s := s.skip
  match s.rest with
  | [] => .error .unclosedClass
  | '-' :: rest =>
    let behind := s.withRest rest
    -- a hyphen before the closing bracket, or before another hyphen, makes no range
    if behind.peek == some ']' || behind.peek == some '-' then
      .ok (← first.toSet s.options, s)
    else
      let (second, s) ← readClassItem behind.skip
      match first, second with
      | .literal a, .literal b =>
        if b < a then .error .badClassRange
        else if !s.options.unicode && 0x7f < b.toNat then .error .notText
        else .ok (⟨[(a.toNat, b.toNat)]⟩, s)
      | _, _ => .error .badClassRange
  | _ => .ok (← first.toSet s.options, s)

/-- The bracketed class `[:name:]` or `[:^name:]`, if that is what the text holds;
otherwise the bracket opens a class of its own. -/
def readBracketClass? (o : Options) (cs : List Char) :
    Option (Read CharSet × List Char) :=
  match cs with
  | '[' :: ':' :: rest =>
    let (negated, rest) := match rest with
      | '^' :: rest => (true, rest)
      | rest => (false, rest)
    let name := rest.takeWhile (· != ':')
    match rest.dropWhile (· != ':') with
    | ':' :: ']' :: rest =>
      (Classes.bracketClass? (String.ofList name)).map fun set =>
        let set := closeCase o set
        (if negated then negateClass o set else .ok set, rest)
    | _ => none
  | _ => none

/-- How two classes are combined. -/
inductive ClassOp where
  | inter
  | diff
  | symmDiff

/-- A set that part of a class stands for, and how deep the constructs in that part
lie inside one another. -/
structure ClassPart where
  set : CharSet
  depth : Nat

/-- Items of a class that stand in a row, none at first. -/
structure ClassItems where
  set : CharSet := .none
  count : Nat := 0
  depth : Nat := 0

namespace ClassItems

/-- The items and one more. -/
def add (items : ClassItems) (set : CharSet) (depth : Nat) : ClassItems :=
  ⟨items.set.union set, items.count + 1, max items.depth depth⟩

/-- The part of the class that the items make up.  Two items or more are a
construct of their own. -/
def toPart (items : ClassItems) : ClassPart :=
  ⟨items.set, if 2 ≤ items.count then items.depth + 1 else items.depth⟩

end ClassItems

/-- Combines what stands before an operator, if there is one, with what follows. -/
def combine (o : Options) (pending : Option (ClassPart × ClassOp)) (part : ClassPart) :
    ClassPart :=
  match pending with
  | none => part
  | some (before, op) =>
    let s := closeCase o before.set
    let t := closeCase o part.set
    let set := match op with
      | .inter => s.inter t
      | .diff => s.diff t
      | .symmDiff => s.symmDiff t
    ⟨set, max before.depth part.depth + 1⟩

/-- Hyphens at the start of a class stand for themselves. -/
def readLeadingHyphens : Nat → ClassItems → ReadState → Read (ClassItems × ReadState)
  | 0, _, _ => .error .unclosedClass
  | fuel + 1, items, s =>
    match s.rest with
    | '-' :: rest =>
      match (s.withRest rest).skip.rest with
      | [] => .error .unclosedClass
      | next => readLeadingHyphens fuel (items.add (.single '-') 0) (s.withRest next)
    | _ => .ok (items, s)

/-- The start of a class after its bracket: whether it is negated, and the
characters that stand for themselves there. -/
def readClassStart (fuel : Nat) (s : ReadState) : Read ((Bool × ClassItems) × ReadState) := do
  let s := s.skip
  let (negated, s) := match s.rest with
    | '^' :: rest => (true, (s.withRest rest).skip)
    | _ => (false, s)
  let (items, s) ← readLeadingHyphens fuel {} s
  match s.rest with
  | [] => .error .unclosedClass
  | ']' :: rest =>
    -- behind a hyphen the bracket closes the class; in first place it stands for itself
    if items.count != 0 then .ok ((negated, items), s) else
    let s := (s.withRest rest).skip
    if s.rest.isEmpty then .error .unclosedClass
    else .ok ((negated, items.add (.single ']') 0), s)
  | _ => .ok ((negated, items), s)

/-- The rest of a class up to its closing bracket.  `pending` is the part before the
last operator and `items` what has been read since. -/
def readClassRest : Nat → (negated : Bool) → (pending : Option (ClassPart × ClassOp)) →
    (items : ClassItems) → ReadState → Read (ClassPart × ReadState)
  | 0, _, _, _, _ => .error .unclosedClass
  | fuel + 1, negated, pending, items, s => do
    let s := s.skip
    let o := s.options
    let operator (op : ClassOp) (rest : List Char) : Read (ClassPart × ReadState) :=
      readClassRest fuel negated (some (combine o pending items.toPart, op)) {} (s.withRest rest)
    match s.rest with
    | [] => .error .unclosedClass
    | '[' :: rest =>
      match readBracketClass? o s.rest with
      | some (set, rest) =>
        readClassRest fuel negated pending (items.add (← set) 0) (s.withRest rest)
      | none =>
        let ((inner, first), s) ← readClassStart fuel (s.withRest rest)
        let (part, s) ← readClassRest fuel inner none first s
        readClassRest fuel negated pending (items.add part.set part.depth) s
    | ']' :: rest =>
      let whole := combine o pending items.toPart
      let set := closeCase o whole.set
      let set ← if negated then negateClass o set else .ok set
      .ok (⟨set, whole.depth + 1⟩, s.withRest rest)
    | '&' :: '&' :: rest => operator .inter rest
    | '-' :: '-' :: rest => operator .diff rest
    | '~' :: '~' :: rest => operator .symmDiff rest
    | _ =>
      let (set, s) ← readClassRange s
      readClassRest fuel negated pending (items.add set 0) s

/-- A class after its opening bracket; `fuel` is more than the text that is left. -/
def readClass (fuel : Nat) (s : ReadState) : Read (ClassPart × ReadState) := do
  let ((negated, items), s) ← readClassStart fuel s
  readClassRest fuel negated none items s

/-! ## Groups and options -/

/-- What an opening parenthesis begins. -/
inductive Opening where
  /-- A numbered group. -/
  | numbered (index : Nat)
  /-- A group that is not remembered, read with options of its own. -/
  | plain (o : Options)
  /-- New options for the rest of the group around. -/
  | options (o : Options)

/-- The option of a letter set to a value. -/
def Options.set? (o : Options) (letter : Char) (value : Bool) : Option Options :=
  match letter with
  | 'i' => some { o with ignoreCase := value }
  | 'm' => some { o with multiLine := value }
  | 's' => some { o with dotMatchesNewline := value }
  | 'U' => some { o with swapGreed := value }
  | 'u' => some { o with unicode := value }
  | 'R' => some { o with carriageReturns := value }
  | 'x' => some { o with ignoreSpace := value }
  | _ => none

/-- Option letters up to the colon or parenthesis that ends them.  `met` are the
letters so far and `negative` is set behind the hyphen. -/
def readOptions (o : Options) (met : List Char) (negative : Bool) :
    List Char → Read (Options × List Char × List Char)
  | [] => .error .badFlags
  | c :: rest =>
    if c == ':' || c == ')' then
      if met.head? == some '-' then .error .badFlags else .ok (o, met, c :: rest)
    else if met.contains c then .error .badFlags
    else if c == '-' then readOptions o ('-' :: met) true rest
    else
      match o.set? c (!negative) with
      | none => .error .badFlags
      | some o => readOptions o (c :: met) negative rest

/-- The letters of group names. -/
def nameLetters : CharSet := Property.alphabetic.union Additions.alphabetic

/-- The numerals of group names. -/
def nameNumerals : CharSet := Category.number.union Additions.number

/-- Whether a character may stand in a group name. -/
def isNameChar (first : Bool) (c : Char) : Bool :=
  c == '_' || nameLetters.contains c ||
    (!first && (c == '.' || c == '[' || c == ']' || nameNumerals.contains c))

/-- A group name up to its closing angle bracket. -/
def readGroupName (s : ReadState) : Read (List Char × ReadState) :=
  let name := s.rest.takeWhile (· != '>')
  match s.rest.dropWhile (· != '>') with
  | [] => .error .badGroupName
  | _ :: rest =>
    match name with
    | [] => .error .badGroupName
    | c :: cs =>
      if !isNameChar true c || !cs.all (isNameChar false) || s.names.contains name then
        .error .badGroupName
      else .ok (name, s.withRest rest)

/-- What follows an opening parenthesis, up to the contents of the group. -/
def readOpening (s : ReadState) : Read (Opening × ReadState) :=
  let s := s.skip
  let named (rest : List Char) : Read (Opening × ReadState) := do
    let (name, s) ← readGroupName (s.withRest rest)
    .ok (.numbered s.nextGroup, { s with nextGroup := s.nextGroup + 1, names := name :: s.names })
  match s.rest with
  | '?' :: '=' :: _ | '?' :: '!' :: _ => .error .lookAround
  | '?' :: '<' :: '=' :: _ | '?' :: '<' :: '!' :: _ => .error .lookAround
  | '?' :: 'P' :: '<' :: rest => named rest
  | '?' :: '<' :: rest => named rest
  | '?' :: rest => do
    let (o, met, rest) ← readOptions s.options [] false rest
    match rest with
    | ')' :: rest =>
      if met.isEmpty then .error .nothingToRepeat else .ok (.options o, s.withRest rest)
    | _ => .ok (.plain o, s.withRest (rest.drop 1))
  | _ => .ok (.numbered s.nextGroup, { s with nextGroup := s.nextGroup + 1 })

/-! ## Repetitions -/

/-- A decimal count with blanks around it. -/
def readCount (s : ReadState) : Read (Option Nat × ReadState) :=
  let blank := Property.whiteSpace.contains
  let (digits, s) := (s.withRest (s.rest.dropWhile blank)).spanWhile Char.isDigit s.rest.length
  -- blanks before the comma or the brace
  let s := if s.rest.head?.any blank then (s.withRest (s.rest.dropWhile blank)).skip else s
  if digits.isEmpty then .ok (none, s) else
  let n := digits.foldl (fun n d => n * 10 + (d.toNat - 48)) 0
  if n < 1 <<< 32 then .ok (some n, s) else .error .badRepetition

/-- A counted repetition after its opening brace: least and greatest count. -/
def readCounts (s : ReadState) : Read ((Nat × Option Nat) × ReadState) := do
  let s := s.skip
  if s.rest.isEmpty then .error .badRepetition else
  let (least, s) ← readCount s
  let close (counts : Nat × Option Nat) (s : ReadState) :
      Read ((Nat × Option Nat) × ReadState) :=
    match s.rest with
    | '}' :: rest => .ok (counts, s.withRest rest)
    | _ => .error .badRepetition
  match least with
  | none => .error .badRepetition
  | some least =>
    match s.rest with
    | ',' :: rest =>
      let s := (s.withRest rest).skip
      match s.rest with
      | [] => .error .badRepetition
      | '}' :: rest => .ok ((least, none), s.withRest rest)
      | _ =>
        let (most, s) ← readCount s
        match most with
        | none => .error .badRepetition
        | some most =>
          let (counts, s) ← close (least, some most) s
          if most < least then .error .badRepetition else .ok (counts, s)
    | _ => close (least, some least) s

/-- Repeats the last item; a question mark that follows swaps the greed. -/
def repeatLast (least : Nat) (most : Option Nat) (items : List Item) (s : ReadState) :
    Read (List Item × ReadState) :=
  match items with
  | [] => .error .nothingToRepeat
  | item :: items =>
    if !item.repeatable then .error .nothingToRepeat else
    let (lazy, s) := match s.rest with
      | '?' :: rest => (true, s.withRest rest)
      | _ => (false, s)
    -- greedy unless exactly one of the two asks for the opposite
    let greedy := lazy == s.options.swapGreed
    .ok (⟨.repetition item.node least most greedy, item.depth + 1, true⟩ :: items, s)

/-! ## Sequences and choices -/

/-- The sequence of items, which are given last first. -/
def sequenceOf (items : List Item) : Node × Nat :=
  let depth := (items.map (·.depth)).foldl max 0
  (.sequence (items.reverse.map (·.node)), if 2 ≤ items.length then depth + 1 else depth)

/-- The choice between alternatives, which are given last first. -/
def choiceOf (alternatives : List (Node × Nat)) : Node × Nat :=
  let depth := (alternatives.map (·.2)).foldl max 0
  (.choice (alternatives.reverse.map (·.1)),
    if 2 ≤ alternatives.length then depth + 1 else depth)

/-- The pattern for any character. -/
def anyNode (o : Options) : Read Node :=
  if !o.unicode then .error .notText
  else if o.dotMatchesNewline then .ok (.ofSet .all)
  else if o.carriageReturns then .ok (.ofSet (CharSet.ofRanges [(10, 10), (13, 13)]).complement)
  else .ok (.ofSet (CharSet.single '\n').complement)

/-- The mark for the start of a text or line. -/
def startMark (o : Options) : Mark :=
  if !o.multiLine then .textStart
  else if o.carriageReturns then .lineStartCR else .lineStart

/-- The mark for the end of a text or line. -/
def endMark (o : Options) : Mark :=
  if !o.multiLine then .textEnd
  else if o.carriageReturns then .lineEndCR else .lineEnd

/-- Reads alternatives up to a closing parenthesis, which is left, or the end.
`done` holds the alternatives before this one and `items` this one so far, both
last first. -/
def readChoice : Nat → (done : List (Node × Nat)) → (items : List Item) → ReadState →
    Read ((Node × Nat) × ReadState)
  | 0, _, _, _ => .error .tooDeep
  | fuel + 1, done, items, s => do
    let s := s.skip
    let o := s.options
    let push (node : Node) (s : ReadState) : Read ((Node × Nat) × ReadState) :=
      readChoice fuel done (⟨node, 0, true⟩ :: items) s
    match s.rest with
    | [] | ')' :: _ => .ok (choiceOf (sequenceOf items :: done), s)
    | '|' :: rest => readChoice fuel (sequenceOf items :: done) [] (s.withRest rest)
    | '(' :: rest =>
      let (opening, inner) ← readOpening (s.withRest rest)
      match opening with
      | .options new =>
        -- options are an item that takes no text and cannot be repeated
        readChoice fuel done (⟨.empty, 0, false⟩ :: items) { inner with options := new }
      | .plain new =>
        let ((node, depth), inner) ← readChoice fuel [] [] { inner with options := new }
        match inner.rest with
        | [] => .error .unclosedGroup
        | _ :: rest =>
          readChoice fuel done (⟨node, depth + 1, true⟩ :: items)
            { inner with options := o, rest := rest }
      | .numbered index =>
        let ((node, depth), inner) ← readChoice fuel [] [] inner
        match inner.rest with
        | [] => .error .unclosedGroup
        | _ :: rest =>
          readChoice fuel done (⟨.group index node, depth + 1, true⟩ :: items)
            { inner with options := o, rest := rest }
    | '[' :: rest =>
      let (part, s) ← readClass fuel (s.withRest rest)
      readChoice fuel done (⟨.ofSet part.set, part.depth, true⟩ :: items) s
    | '?' :: rest =>
      let (items, s) ← repeatLast 0 (some 1) items (s.withRest rest)
      readChoice fuel done items s
    | '*' :: rest =>
      let (items, s) ← repeatLast 0 none items (s.withRest rest)
      readChoice fuel done items s
    | '+' :: rest =>
      let (items, s) ← repeatLast 1 none items (s.withRest rest)
      readChoice fuel done items s
    | '{' :: rest =>
      if items.isEmpty then .error .nothingToRepeat else
      let ((least, most), s) ← readCounts (s.withRest rest)
      let (items, s) ← repeatLast least most items s.skip
      readChoice fuel done items s
    | '.' :: rest => push (← anyNode o) (s.withRest rest)
    | '^' :: rest => push (.mark (startMark o)) (s.withRest rest)
    | '$' :: rest => push (.mark (endMark o)) (s.withRest rest)
    | '\\' :: rest =>
      let (p, s) ← readEscape (s.withRest rest)
      match p with
      | .literal c => push (literalNode s.options c) s
      | .chars set => push (.ofSet set) s
      | .mark m => push (.mark m) s
    | c :: rest => push (literalNode o c) (s.withRest rest)

/-- A pattern text read whole: its tree and the number of its groups. -/
def readPattern (text : List Char) : Read (Node × Nat) := do
  let ((node, depth), s) ← readChoice (text.length + 1) [] [] ⟨text, {}, 1, []⟩
  if !s.rest.isEmpty then .error .unopenedGroup
  else if depthLimit < depth then .error .tooDeep
  else if !Storage.fits node then .error .tooLarge
  else .ok (node, s.nextGroup - 1)

end TextTemplate.Pattern
