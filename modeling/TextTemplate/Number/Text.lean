import TextTemplate.Number.Binary64

/-! # Numbers and their text

Digits have values in any base up to 36.  A number that stands in a document is whole
or of double precision (`Number`).

Whole numbers are written in decimal.  A double-precision number is written with
the fewest digits that read back, always with a fraction or an exponent so that
it is told apart from a whole number. -/
namespace TextTemplate

/-! ## Digits

Letters of either case are the digits from ten on. -/

/-- The value of a digit. -/
def digitValue? (c : Char) : Option Nat :=
  if '0' ≤ c ∧ c ≤ '9' then some (c.toNat - 48)
  else if 'a' ≤ c ∧ c ≤ 'z' then some (c.toNat - 87)
  else if 'A' ≤ c ∧ c ≤ 'Z' then some (c.toNat - 55)
  else none

/-- The value of a digit of a base. -/
def digitIn? (base : Nat) (c : Char) : Option Nat :=
  (digitValue? c).filter (· < base)

/-- The number that digits of a base stand for, 0 for no digits. -/
def numberIn? (base : Nat) (digits : List Char) : Option Nat :=
  digits.foldlM (fun n c => (digitIn? base c).map (n * base + ·)) 0

/-! ## Numbers -/

/-- A number is whole or a double-precision number.  Whole numbers that come
from text lie between `-2^63` and `2^64 - 1`. -/
inductive Number where
  | int (n : Int)
  | float (x : Binary64)
deriving DecidableEq, Repr, Inhabited

/-- Whether the number is zero; negative zero is. -/
def Number.isZero : Number → Bool
  | .int n => n == 0
  | .float x => x.isZero

/-! ## Text -/

/-- The decimal digits of a natural number. -/
def decimal (n : Nat) : List Char :=
  if n < 10 then [Nat.digitChar n] else decimal (n / 10) ++ [Nat.digitChar (n % 10)]
termination_by n

/-- A whole number, with a minus sign if it is negative. -/
def wholeText (n : Int) : List Char :=
  if n < 0 then '-' :: decimal n.natAbs else decimal n.natAbs

/-- Digits with the point after the first `whole` of them, and zeros wherever
there is no digit: before the first, after the last, or for an empty fraction. -/
def positional (digits : List Char) (whole : Int) : List Char :=
  if whole ≤ 0 then
    '0' :: '.' :: (List.replicate (-whole).toNat '0' ++ digits)
  else
    let places := whole.toNat
    let front := digits.take places
    let fraction := digits.drop places
    front ++ List.replicate (places - front.length) '0' ++
      ('.' :: (if fraction.isEmpty then ['0'] else fraction))

/-- One digit before the point and an exponent with a sign. -/
def scientific (digits : List Char) (exponent : Int) : List Char :=
  let mantissa := match digits with
    | [] => []
    | [d] => [d]
    | d :: rest => d :: '.' :: rest
  mantissa ++ 'e' :: (if exponent < 0 then '-' else '+') :: decimal exponent.natAbs

/-- The text of a double-precision number: positional while the first digit
stands for a power of ten from `-5` to `15`, scientific beyond. -/
def Binary64.text (x : Binary64) : List Char :=
  let magnitude :=
    if x.isZero then ['0', '.', '0'] else
    let d := x.shortest
    let digits := decimal d.digits
    let exponent := d.power + digits.length - 1
    if -5 ≤ exponent ∧ exponent < 16 then positional digits (exponent + 1)
    else scientific digits exponent
  if x.negative then '-' :: magnitude else magnitude

/-- The text of a number. -/
def Number.text : Number → List Char
  | .int n => wholeText n
  | .float x => x.text

end TextTemplate
