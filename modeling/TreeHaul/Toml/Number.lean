import TreeHaul.Toml.Quoted

/-!
Numbers in TOML: integers of 64 bits, and decimals that a double can hold.
-/

namespace TreeHaul.Toml

/-- What can follow a digit: more of them, with single underscores between. The digits before are
given, latest first. -/
def moreDigits? (isDigit : Char → Bool) : List Char → Reader (List Char)
  | done, [] => some (done.reverse, [])
  | done, '_' :: d :: r => if isDigit d then moreDigits? isDigit (d :: done) r else none
  | _, '_' :: [] => none
  | done, d :: r =>
    if isDigit d then moreDigits? isDigit (d :: done) r else some (done.reverse, d :: r)

/-- Digits of a base, with single underscores between them. -/
def digits? (isDigit : Char → Bool) : Reader (List Char)
  | [] => none
  | c :: r => if isDigit c then moreDigits? isDigit [c] r else none

/-- The value of digits to a base, as far as it lies below a bound; else some number from the bound
on, which does not grow with the digits that are left. -/
def valueBelow (bound base : Nat) (digits : List Char) : Nat :=
  digits.foldl (fun n c => if bound ≤ n then n else base * n + (hexValue? c).getD 0) 0

/-- A sign, which may be missing: whether the number is negative. -/
def sign (s : List Char) : Bool × List Char :=
  match s with
  | '-' :: r => (true, r)
  | '+' :: r => (false, r)
  | _ => (false, s)

/-- The whole part of a number: digits that do not start with a zero, or a zero alone. -/
def whole? : Reader (List Char)
  | '0' :: r => some (['0'], r)
  | s => digits? isDigit s

/-- The middle between the largest double and the power of two after it. -/
def roundsUp : Nat := Nat.pow 2 1024 - Nat.pow 2 970

/-- No more digits than this stand in front of the point of a finite double. -/
def wholeLimit : Int := 309

/-- Whether a number with its point after all of the digits, times `10 ^ e`, rounds to a finite
double. That hangs on its whole part alone, since `roundsUp` is whole. -/
def isFinite (digits : List Char) (e : Int) : Bool :=
  let digits := digits.dropWhile (· == '0')
  let size := digits.length + e
  if digits.isEmpty then true
  else if size > wholeLimit then false
  else
    let front := digits.take size.toNat
    valueBelow roundsUp 10 front * Nat.pow 10 (size.toNat - front.length) < roundsUp

/-- What a number is. -/
inductive Number where
  | integer (n : Int)
  | decimal
  deriving DecidableEq, Repr

def fitsWord (n : Int) : Bool := Int64.minValue.toInt ≤ n && n ≤ Int64.maxValue.toInt

/-- Past what a word can hold, with either sign. -/
def farLimit : Nat := UInt64.size

/-- An exponent that has come this far counts no more of its digits. -/
def exponentLimit : Nat := 0x10000

/-- An exponent after its letter. -/
def exponent? (s : List Char) : Option (Int × List Char) := do
  let (negative, r) := sign s
  let (ds, r) ← digits? isDigit r
  let n : Int := valueBelow exponentLimit 10 ds
  return (if negative then -n else n, r)

/-- An exponent that may be missing. -/
def exponentOr? (s : List Char) : Option (Int × List Char) :=
  match s with
  | 'e' :: r => exponent? r
  | 'E' :: r => exponent? r
  | _ => some (0, s)

/-- A decimal must not be too large; one far below zero is taken for negative infinity. -/
def decimalOf? (negative : Bool) (digits : List Char) (e : Int) (r : List Char) :
    Option (Number × List Char) :=
  if negative || isFinite digits e then some (.decimal, r) else none

/-- A number to the base ten. -/
def decimalNumber? (s : List Char) : Option (Number × List Char) := do
  let (negative, r) := sign s
  match r with
  | 'i' :: 'n' :: 'f' :: r => return (.decimal, r)
  | 'n' :: 'a' :: 'n' :: r => return (.decimal, r)
  | _ =>
    let (ds, r) ← whole? r
    match r with
    | '.' :: r =>
      let (fs, r) ← digits? isDigit r
      let (e, r) ← exponentOr? r
      decimalOf? negative (ds ++ fs) (e - fs.length) r
    | 'e' :: r =>
      let (e, r) ← exponent? r
      decimalOf? negative ds e r
    | 'E' :: r =>
      let (e, r) ← exponent? r
      decimalOf? negative ds e r
    | _ =>
      let n : Int := valueBelow farLimit 10 ds
      let n := if negative then -n else n
      if fitsWord n then return (.integer n, r) else none

def isDigitOf (base : Nat) (c : Char) : Bool :=
  match hexValue? c with
  | some v => v < base
  | none => false

/-- The digits of an integer to another base. -/
def based? (base : Nat) (s : List Char) : Option (Number × List Char) := do
  let (ds, r) ← digits? (isDigitOf base) s
  let n : Int := valueBelow farLimit base ds
  if fitsWord n then return (.integer n, r) else none

def number? : Reader Number
  | '0' :: 'x' :: r => based? 16 r
  | '0' :: 'o' :: r => based? 8 r
  | '0' :: 'b' :: r => based? 2 r
  | s => decimalNumber? s

end TreeHaul.Toml
