/-!
The shortest decimal that reads back as a given double.

A finite positive double is `m * 2 ^ q`, and the reals that round to it fill an interval around
it, ends included when `m` is even. The search goes from coarse to fine grids of multiples of a
power of ten and stops at the first one that has a point in the interval; only the two neighbours
of the double on a grid need to be looked at.
-/

namespace TreeHaul.Decimal

/-- The value `coeff * 10 ^ exponent`. -/
structure Digits where
  coeff : Nat
  exponent : Int
  deriving DecidableEq, Repr

/-- A positive double over a common denominator, with the ends of the interval around it. -/
structure Rounding where
  low : Nat
  value : Nat
  high : Nat
  den : Nat
  closed : Bool

namespace Rounding

/-- The interval of `m * 2 ^ q`. Below a power of two the gap is half as wide. -/
def ofParts (m : Nat) (q : Int) (narrow : Bool) : Rounding :=
  let e := q - 2
  let up := Nat.pow 2 e.toNat
  ⟨(4 * m - (if narrow then 1 else 2)) * up, 4 * m * up, (4 * m + 2) * up, Nat.pow 2 (-e).toNat,
    m % 2 == 0⟩

/-- Whether `x`, over the same denominator, rounds to the value. -/
def holds (r : Rounding) (x : Nat) : Bool :=
  if r.closed then r.low ≤ x && x ≤ r.high else r.low < x && x < r.high

/-- The same interval over a denominator `k` times as large. -/
def refine (r : Rounding) (k : Nat) : Rounding :=
  ⟨r.low * k, r.value * k, r.high * k, r.den * k, r.closed⟩

/-- The nearest point of the grid of multiples of `10 ^ e` that rounds to the value. -/
def onGrid? (r : Rounding) (e : Int) : Option Nat :=
  let r := r.refine (Nat.pow 10 (-e).toNat)
  let unit := r.den / Nat.pow 10 (-e).toNat * Nat.pow 10 e.toNat
  let below := r.value / unit
  let above := below + 1
  match below != 0 && r.holds (below * unit), r.holds (above * unit) with
  | false, false => none
  | true, false => some below
  | false, true => some above
  | true, true =>
    some (if above * unit - r.value ≤ r.value - below * unit then above else below)

/-- Tries `fuel` grids from `10 ^ e` down. -/
def search (r : Rounding) : Nat → Int → Digits
  | 0, e => ⟨0, e⟩
  | fuel + 1, e =>
    match r.onGrid? e with
    | some c => ⟨c, e⟩
    | none => search r fuel (e - 1)

end Rounding

/-- The exponent of a power of ten above `m * 2 ^ q`, with no grid from there on: the quotient is a
little above the logarithm of two. -/
def topExponent (m : Nat) (q : Int) : Int := (m.log2 + 1 + q) * 30103 / 100000 + 2

/-- From the top of any double this many grids reach one that has a point in its interval. -/
def gridCount : Nat := 32

/-- How many doubles share a sign and an exponent field: `2 ^ 52`. -/
def fractions : Nat := 0x10000000000000

/-- The shortest digits of the finite positive double with this fraction and exponent field. -/
def shortest (fraction field : Nat) : Digits :=
  let (m, q) : Nat × Int :=
    if field = 0 then (fraction, -1074) else (fractions + fraction, field - 1075)
  let r := Rounding.ofParts m q (fraction == 0 && 1 < field)
  r.search gridCount (topExponent m q)

/-- How a double is laid out: positional from `10 ^ low` to below `10 ^ high`, else with an
exponent. -/
structure Layout where
  low : Int
  high : Int

namespace Layout

def digitText (n : Nat) : List Char := (toString n).toList

/-- Digits with a point in them, and at least one digit on each side of it. -/
def positional (d : Digits) : List Char :=
  let ds := digitText d.coeff
  let point := ds.length + d.exponent
  if d.exponent ≥ 0 then ds ++ List.replicate d.exponent.toNat '0' ++ ['.', '0']
  else if point > 0 then ds.take point.toNat ++ '.' :: ds.drop point.toNat
  else '0' :: '.' :: List.replicate (-point).toNat '0' ++ ds

/-- One digit, the others after a point, and the power of ten. -/
def scientific (d : Digits) : List Char :=
  let ds := digitText d.coeff
  let mantissa :=
    match ds with
    | first :: second :: rest => first :: '.' :: second :: rest
    | _ => ds
  mantissa ++ 'e' :: (toString (ds.length + d.exponent - 1)).toList

/-- The text of a positive number. -/
def text (l : Layout) (d : Digits) : List Char :=
  let point : Int := (digitText d.coeff).length + d.exponent
  if l.low < point && point ≤ l.high then positional d else scientific d

/-- The text of any double: a sign before what is negative, zero included. -/
def render (l : Layout) (bits : UInt64) : String :=
  let n := bits.toNat
  let field := n / fractions % 2048
  let fraction := n % fractions
  let sign := if n ≥ 2048 * fractions then ['-'] else []
  if field = 2047 then
    if fraction = 0 then String.ofList (sign ++ "inf".toList) else "NaN"
  else if field = 0 && fraction = 0 then String.ofList (sign ++ "0.0".toList)
  else String.ofList (sign ++ l.text (shortest fraction field))

end Layout

end TreeHaul.Decimal
