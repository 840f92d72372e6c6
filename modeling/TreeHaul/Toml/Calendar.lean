import TreeHaul.Toml.Quoted

/-!
Dates and times in TOML: a day, a time of day, or both with or without an offset.
-/

namespace TreeHaul.Toml

def isLeapYear (year : Nat) : Bool := year % 4 == 0 && (year % 100 != 0 || year % 400 == 0)

def daysIn (year month : Nat) : Nat :=
  match month with
  | 2 => if isLeapYear year then 29 else 28
  | 4 | 6 | 9 | 11 => 30
  | _ => 31

def digit? (c : Char) : Option Nat := if isDigit c then some (c.toNat - 48) else none

/-- Two digits whose value lies in a range. -/
def twoDigits? (lo hi : Nat) : Reader Nat
  | a :: b :: r => do
    let n := 10 * (← digit? a) + (← digit? b)
    if lo ≤ n && n ≤ hi then return (n, r) else none
  | _ => none

/-- One given character. -/
def char? (c : Char) : List Char → Option (List Char)
  | d :: r => if d = c then some r else none
  | [] => none

/-- A day: year, month and day of the month. -/
def day? : List Char → Option (List Char)
  | a :: b :: c :: d :: '-' :: r => do
    let year := 1000 * (← digit? a) + 100 * (← digit? b) + 10 * (← digit? c) + (← digit? d)
    let (month, r) ← twoDigits? 1 12 r
    let (_, r) ← twoDigits? 1 (daysIn year month) (← char? '-' r)
    return r
  | _ => none

/-- A fraction of a second that may be missing. -/
def fraction? : List Char → Option (List Char)
  | '.' :: c :: r => if isDigit c then some (r.dropWhile isDigit) else none
  | '.' :: [] => none
  | s => some s

/-- A time of day. The last second of a minute may be a leap second. -/
def time? (s : List Char) : Option (List Char) := do
  let (_, r) ← twoDigits? 0 23 s
  let (_, r) ← twoDigits? 0 59 (← char? ':' r)
  let (_, r) ← twoDigits? 0 60 (← char? ':' r)
  fraction? r

/-- An offset that may be missing. -/
def offset? (s : List Char) : Option (List Char) :=
  let signed (r : List Char) : Option (List Char) := do
    let (_, r) ← twoDigits? 0 23 r
    let (_, r) ← twoDigits? 0 59 (← char? ':' r)
    return r
  match s with
  | 'Z' :: r => some r
  | 'z' :: r => some r
  | '+' :: r => signed r
  | '-' :: r => signed r
  | _ => some s

/-- The time of a day and its offset, if what follows starts like one. -/
def timeOfDay? (s : List Char) : Option (List Char) :=
  let after (r : List Char) : Option (List Char) :=
    match twoDigits? 0 23 r with
    | some (_, ':' :: _) => (time? r).bind offset?
    | _ => some s
  match s with
  | 'T' :: r => after r
  | 't' :: r => after r
  | ' ' :: r => after r
  | _ => some s

/-- Whether a text starts like a day: with four digits and a hyphen. -/
def startsDay : List Char → Bool
  | a :: b :: c :: d :: '-' :: _ => isDigit a && isDigit b && isDigit c && isDigit d
  | _ => false

/-- Whether a text starts like a time: with an hour and a colon. -/
def startsTime (s : List Char) : Bool :=
  match twoDigits? 0 23 s with
  | some (_, ':' :: _) => true
  | _ => false

/-- A day with or without a time. -/
def dayAndTime? (s : List Char) : Option (List Char) := do timeOfDay? (← day? s)

end TreeHaul.Toml
