/-!
Points in time, and the pairs of seconds and nanoseconds in which the system gives and takes them.

A stamp from the system becomes an instant by checked steps away from the epoch. An instant
becomes a stamp by its distance from the epoch, in 64-bit arithmetic, which stops or wraps around
where a number leaves its range.
-/

namespace TreeHaul.Path

def nanosPerSec : Nat := 1000000000

/-- A time as the system writes it. -/
structure Stamp where
  sec : Int64
  nsec : Int64
  deriving DecidableEq, Repr

/-- A point in time: the seconds since the epoch, rounded down, and the nanoseconds after them. -/
structure Instant where
  secs : Int64
  nanos : Fin 1000000000
  deriving DecidableEq, Repr

/-- A length of time. -/
structure Span where
  secs : UInt64
  nanos : Fin 1000000000
  deriving DecidableEq, Repr

/-- How numbers of 64 bits are reckoned with. A step that gives nothing stops the program. -/
structure Arith where
  cast : UInt64 → Option Int64
  neg : Int64 → Option Int64
  sub : Int64 → Int64 → Option Int64

namespace Arith

/-- The number in 64 bits, if it is in their range. -/
def fit? (n : Int) : Option Int64 :=
  if Int64.minValue.toInt ≤ n ∧ n ≤ Int64.maxValue.toInt then some (Int64.ofInt n) else none

/-- Every step wraps around. -/
def wrapping : Arith where
  cast n := some n.toInt64
  neg a := some (-a)
  sub a b := some (a - b)

/-- Negations and subtractions may not leave the range; a cast wraps around all the same. -/
def checked : Arith where
  cast n := some n.toInt64
  neg a := fit? (-a.toInt)
  sub a b := fit? (a.toInt - b.toInt)

end Arith

namespace Instant

def epoch : Instant := ⟨0, 0⟩

/-- So many nanoseconds, without the whole seconds in them. -/
def nanosOf (n : Nat) : Fin 1000000000 := Fin.ofNat 1000000000 n

/-- The instant with these seconds, if they fit. -/
def ofSecs? (secs : Int) (nanos : Fin 1000000000) : Option Instant :=
  if Int64.minValue.toInt ≤ secs ∧ secs ≤ Int64.maxValue.toInt then
    some ⟨Int64.ofInt secs, nanos⟩
  else none

/-- Moves by whole seconds. -/
def shift? (t : Instant) (secs : Int) : Option Instant := ofSecs? (t.secs.toInt + secs) t.nanos

/-- Moves forward by less than a second. -/
def addNanos? (t : Instant) (nanos : Fin 1000000000) : Option Instant :=
  let carry := if t.nanos.val + nanos.val < nanosPerSec then 0 else 1
  ofSecs? (t.secs.toInt + carry) (t.nanos + nanos)

/-- The nanoseconds of a stamp, brought into their range. -/
def clampNanos (nsec : Int64) : Fin 1000000000 :=
  nanosOf (min nsec.toInt 999999999).toNat

/-- The time that a stamp means; what cannot be represented is the epoch. -/
def ofStamp (s : Stamp) : Instant :=
  ((epoch.shift? s.sec.toInt).bind (·.addNanos? (clampNanos s.nsec))).getD epoch

/-- The time since the epoch, or else the time until it. -/
def fromEpoch (t : Instant) : Except Span Span :=
  if 0 ≤ t.secs then .ok ⟨t.secs.toUInt64, t.nanos⟩
  else if t.nanos = 0 then .error ⟨UInt64.ofInt (-t.secs.toInt), 0⟩
  else .error ⟨UInt64.ofInt (-t.secs.toInt - 1), nanosOf (nanosPerSec - t.nanos.val)⟩

/-- The stamp of a time: before the epoch, seconds are negated and then rounded down. -/
def toStamp (a : Arith) (t : Instant) : Option Stamp :=
  match t.fromEpoch with
  | .ok d => do
    let secs ← a.cast d.secs
    return ⟨secs, Int64.ofNat d.nanos.val⟩
  | .error d => do
    let magnitude ← a.cast d.secs
    let secs ← a.neg magnitude
    if d.nanos.val = 0 then return ⟨secs, 0⟩
    let floor ← a.sub secs 1
    let rest ← a.sub 1000000000 (Int64.ofNat d.nanos.val)
    return ⟨floor, rest⟩

end Instant

end TreeHaul.Path
