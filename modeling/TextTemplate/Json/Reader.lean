import TextTemplate.Number.Text
import TextTemplate.Tree
import TextTemplate.Value

/-! # Reading JSON

`read?` accepts exactly one JSON value with blanks around it.  It is strict: no
comments, no trailing commas, no control codes in strings, no half of a surrogate
pair, and at most `nestingLimit` lists and mappings inside one another.  Of
several entries with one key the last counts.

Whole numbers up to 64 bits stay whole; other numbers become double-precision
numbers.  Their digits are collected while they fit 64 bits, converted, and then
scaled by one power of ten, so that the result can differ from the nearest double
in its last bit; a number that leaves the range is an error. -/
namespace TextTemplate.Json

/-- The greatest number of lists and mappings around a value. -/
def nestingLimit : Nat := 127

/-- The blanks of JSON. -/
def isBlank (c : Char) : Bool :=
  c == ' ' || c == '\n' || c == '\t' || c == '\r'

/-- What follows the blanks in front. -/
def skipBlank (cs : List Char) : List Char := cs.dropWhile isBlank

/-! ## Strings -/

/-- Four hexadecimal digits. -/
def readHex4 : List Char → Option (Nat × List Char)
  | a :: b :: c :: d :: rest => do
    let a ← digitIn? 16 a
    let b ← digitIn? 16 b
    let c ← digitIn? 16 c
    let d ← digitIn? 16 d
    some (((a * 16 + b) * 16 + c) * 16 + d, rest)
  | _ => none

/-- Whether a 16-bit unit opens a surrogate pair. -/
def isHighSurrogate (n : Nat) : Bool := 0xd800 ≤ n && n ≤ 0xdbff

/-- Whether a 16-bit unit closes a surrogate pair. -/
def isLowSurrogate (n : Nat) : Bool := 0xdc00 ≤ n && n ≤ 0xdfff

/-- The character of a surrogate pair. -/
def pairChar (high low : Nat) : Char :=
  Char.ofNat (0x10000 + (high - 0xd800) * 0x400 + (low - 0xdc00))

/-- The character that an escape stands for; the backslash has been read. -/
def readEscape : List Char → Option (Char × List Char)
  | '"' :: rest => some ('"', rest)
  | '\\' :: rest => some ('\\', rest)
  | '/' :: rest => some ('/', rest)
  | 'b' :: rest => some ('\x08', rest)
  | 'f' :: rest => some ('\x0c', rest)
  | 'n' :: rest => some ('\n', rest)
  | 'r' :: rest => some ('\r', rest)
  | 't' :: rest => some ('\t', rest)
  | 'u' :: rest => do
    let (unit, rest) ← readHex4 rest
    if isHighSurrogate unit then
      match rest with
      | '\\' :: 'u' :: rest => do
        let (low, rest) ← readHex4 rest
        if isLowSurrogate low then some (pairChar unit low, rest) else none
      | _ => none
    else if isLowSurrogate unit then none
    else some (Char.ofNat unit, rest)
  | _ => none

theorem length_lt_of_readHex4 {cs rest : List Char} {n : Nat}
    (h : readHex4 cs = some (n, rest)) : rest.length < cs.length := by
  unfold readHex4 at h
  split at h
  · simp only [Option.bind_eq_bind, Option.bind_eq_some_iff] at h
    obtain ⟨_, _, _, _, _, _, _, _, h⟩ := h
    simp only [Option.some.injEq, Prod.mk.injEq] at h
    rw [← h.2]
    simp only [List.length_cons]
    omega
  · simp at h

/-- An escape takes at least one character. -/
theorem length_lt_of_readEscape {cs rest : List Char} {c : Char}
    (h : readEscape cs = some (c, rest)) : rest.length < cs.length := by
  unfold readEscape at h
  split at h <;> try (simp only [Option.some.injEq, Prod.mk.injEq] at h; simp [← h.2])
  · simp only [Option.bind_eq_bind, Option.bind_eq_some_iff] at h
    obtain ⟨⟨unit, mid⟩, hmid, h⟩ := h
    have h1 := length_lt_of_readHex4 hmid
    simp only at h
    split at h
    · split at h
      · simp only [Option.bind_eq_some_iff] at h
        obtain ⟨⟨low, last⟩, hlast, h⟩ := h
        have h2 := length_lt_of_readHex4 hlast
        simp only at h
        split at h
        · simp only [Option.some.injEq, Prod.mk.injEq] at h
          rw [← h.2]
          simp only [List.length_cons] at *
          omega
        · simp at h
      · simp at h
    · split at h
      · simp at h
      · simp only [Option.some.injEq, Prod.mk.injEq] at h
        rw [← h.2]
        simp only [List.length_cons]
        omega
  · simp at h

/-- The contents of a string up to its closing quotation mark, and the rest. -/
def readString : List Char → Option (List Char × List Char)
  | [] => none
  | c :: cs =>
    if c = '"' then some ([], cs)
    else if c = '\\' then
      match h : readEscape cs with
      | none => none
      | some (e, rest) =>
        have := length_lt_of_readEscape h
        (readString rest).map fun (s, rest) => (e :: s, rest)
    else if c.toNat < 0x20 then none
    else (readString cs).map fun (s, rest) => (c :: s, rest)
termination_by cs => cs.length
decreasing_by all_goals simp only [List.length_cons]; omega

/-! ## Numbers -/

/-- The greatest 64-bit number. -/
def wordMax : Nat := (1 <<< 64) - 1

/-- The value of a decimal digit. -/
def digitValue (c : Char) : Nat := c.toNat - 48

/-- Appends digits to a 64-bit number while they fit.  The rest of the digits is
returned from the first one that does not. -/
def collect (significand : Nat) : List Char → Nat × List Char
  | [] => (significand, [])
  | d :: ds =>
    if significand * 10 + digitValue d ≤ wordMax then
      collect (significand * 10 + digitValue d) ds
    else (significand, d :: ds)

/-- A number times a power of ten.  Powers beyond `10^308` are applied in steps,
which only zero and ever smaller numbers survive. -/
def scale (x : Binary64) : Nat → Int → Option Binary64
  | 0, _ => none
  | fuel + 1, power =>
    if power.natAbs ≤ 308 then
      match Binary64.ofDecimal false 1 power.natAbs with
      | none => none
      | some ten => if 0 ≤ power then x.mul ten else x.div ten
    else if x.isZero then some x
    else if 0 ≤ power then none
    else
      match Binary64.ofDecimal false 1 308 with
      | none => none
      | some step => (x.div step).bind fun y => scale y fuel (power + 308)

/-- The double-precision number `± significand * 10 ^ power`. -/
def assemble (negative : Bool) (significand : Nat) (power : Int) : Option Number := do
  let x ← Binary64.ofNat significand
  let x ← scale x 5 power
  some (.float (if negative then x.neg else x))

/-- A whole number with a sign; one that fits no 64-bit type becomes a
double-precision number, and so does negative zero. -/
def wholeNumber (negative : Bool) (n : Nat) : Option Number :=
  if !negative then some (.int n)
  else if 0 < n ∧ n ≤ 1 <<< 63 then some (.int (-n))
  else (Binary64.ofNat n).map fun x => .float x.neg

/-- An exponent after its letter: a sign if there is one, and digits. -/
def readExponent (cs : List Char) : Option (Int × List Char) :=
  let (negative, cs) := match cs with
    | '+' :: rest => (false, rest)
    | '-' :: rest => (true, rest)
    | rest => (false, rest)
  let digits := cs.takeWhile Char.isDigit
  if digits.isEmpty then none else
  let n : Int := digits.foldl (fun n d => n * 10 + digitValue d) 0
  some (if negative then -n else n, cs.dropWhile Char.isDigit)

/-- The exponent of a number, if one follows, and the number. -/
def finishNumber (negative : Bool) (significand : Nat) (power : Int) (cs : List Char) :
    Option (Number × List Char) :=
  match cs with
  | 'e' :: rest | 'E' :: rest => do
    let (exponent, rest) ← readExponent rest
    let n ← assemble negative significand (power + exponent)
    some (n, rest)
  | rest => (assemble negative significand power).map (·, rest)

/-- A number whose sign has been read. -/
def readMagnitude (negative : Bool) (cs : List Char) : Option (Number × List Char) :=
  let digits := cs.takeWhile Char.isDigit
  let rest := cs.dropWhile Char.isDigit
  if digits.isEmpty || (digits.head? == some '0' && digits.length != 1) then none else
  -- the digits that do not fit count as zeros: each raises the power of ten by one
  let (significand, excess) := collect 0 digits
  match rest with
  | '.' :: rest =>
    let fraction := rest.takeWhile Char.isDigit
    if fraction.isEmpty then none else
    let (significand, dropped) := collect significand fraction
    -- a digit of the fraction that was kept lowers the power; a dropped one does nothing
    let taken : Int := (fraction.length : Int) - dropped.length
    finishNumber negative significand (excess.length - taken) (rest.dropWhile Char.isDigit)
  | 'e' :: _ | 'E' :: _ => finishNumber negative significand excess.length rest
  | rest =>
    if excess.isEmpty then (wholeNumber negative significand).map (·, rest)
    else (assemble negative significand excess.length).map (·, rest)

/-- A number. -/
def readNumber : List Char → Option (Number × List Char)
  | '-' :: rest => readMagnitude true rest
  | cs => readMagnitude false cs

/-! ## Values -/

/-- The items of a list up to its closing bracket, read by `item`; the first item
is still to come.  `fuel` bounds the number of items. -/
def readItems (item : List Char → Option (Value × List Char)) :
    Nat → List Char → Option (List Value × List Char)
  | 0, _ => none
  | fuel + 1, cs => do
    let (v, rest) ← item (skipBlank cs)
    match skipBlank rest with
    | ',' :: rest => (readItems item fuel rest).map fun (vs, rest) => (v :: vs, rest)
    | ']' :: rest => some ([v], rest)
    | _ => none

/-- The entries of a mapping up to its closing brace, their values read by `item`. -/
def readEntries (item : List Char → Option (Value × List Char)) :
    Nat → List Char → Option (List (String × Value) × List Char)
  | 0, _ => none
  | fuel + 1, cs =>
    match skipBlank cs with
    | '"' :: rest => do
      let (key, rest) ← readString rest
      match skipBlank rest with
      | ':' :: rest => do
        let (v, rest) ← item (skipBlank rest)
        match skipBlank rest with
        | ',' :: rest =>
          (readEntries item fuel rest).map fun (es, rest) => ((String.ofList key, v) :: es, rest)
        | '}' :: rest => some ([(String.ofList key, v)], rest)
        | _ => none
      | _ => none
    | _ => none

/-- A value at the front of the text, with at most `depth` levels of nesting. -/
def readValue : Nat → List Char → Option (Value × List Char)
  | _, 'n' :: 'u' :: 'l' :: 'l' :: rest => some (.null, rest)
  | _, 't' :: 'r' :: 'u' :: 'e' :: rest => some (.bool true, rest)
  | _, 'f' :: 'a' :: 'l' :: 's' :: 'e' :: rest => some (.bool false, rest)
  | _, '"' :: rest => (readString rest).map fun (s, rest) => (.string (String.ofList s), rest)
  | 0, '[' :: _ => none
  | depth + 1, '[' :: rest =>
    match skipBlank rest with
    | ']' :: rest => some (.array [], rest)
    | rest =>
      (readItems (readValue depth) rest.length rest).map fun (vs, rest) => (.array vs, rest)
  | 0, '{' :: _ => none
  | depth + 1, '{' :: rest =>
    match skipBlank rest with
    | '}' :: rest => some (.object [], rest)
    | rest =>
      (readEntries (readValue depth) rest.length rest).map fun (es, rest) =>
        (.object (Entries.ofList es), rest)
  | _, cs => (readNumber cs).map fun (n, rest) => (.number n, rest)

/-- The value that the whole text stands for. -/
def read? (text : String) : Option Value :=
  match readValue nestingLimit (skipBlank text.toList) with
  | some (v, rest) => if (skipBlank rest).isEmpty then some v else none
  | none => none

/-! ## Template trees -/

/-- The items of a list of strings. -/
def toStrings? : Value → Option (List String)
  | .array items => items.mapM fun
    | .string s => some s
    | _ => none
  | _ => none

/-- Two fields of a record: entries of a mapping, which may hold others as well,
or the two items of a list. -/
def toFields? (first second : String) : Value → Option (Value × Value)
  | .object entries => do
    let a ← Entries.get? entries first
    let b ← Entries.get? entries second
    some (a, b)
  | .array [a, b] => some (a, b)
  | _ => none

/-- The pipe that a value describes. -/
def toPipe? (v : Value) : Option Pipe := do
  match ← toFields? "name" "parameters" v with
  | (.string name, parameters) => some ⟨name, ← toStrings? parameters⟩
  | _ => none

/-- The variable that a value describes. -/
def toVariable? (v : Value) : Option Variable := do
  match ← toFields? "name" "pipes" v with
  | (.string name, .array pipes) => some ⟨name, ← pipes.mapM toPipe?⟩
  | _ => none

/-- The template tree that a value describes. -/
def toTemplate? (v : Value) : Option Template := do
  match ← toFields? "literals" "variables" v with
  | (literals, .array placeholders) =>
    some ⟨← toStrings? literals, ← placeholders.mapM toVariable?⟩
  | _ => none

end TextTemplate.Json
