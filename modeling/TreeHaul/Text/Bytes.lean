/-!
Texts as bytes. A text has one UTF-8 form; a byte string may have none to come from, and then it
can still be read with a mark for each part that is not UTF-8.
-/

namespace TreeHaul.Text

abbrev Bytes := List UInt8

/-- The UTF-8 form of a text. -/
def bytesOf (s : String) : Bytes := s.toUTF8.data.toList

/-- The text whose UTF-8 form this is. -/
def ofBytes? (bs : Bytes) : Option String := String.fromUTF8? ⟨bs.toArray⟩

namespace Lossy

/-- What stands for a part that is not UTF-8. -/
def mark : Char := '\uFFFD'

/-- What a first byte promises: how many bytes follow it, and the range of the first of those. -/
def lead (b : UInt8) : Option (Nat × UInt8 × UInt8) :=
  if 0xC2 ≤ b && b ≤ 0xDF then some (1, 0x80, 0xBF)
  else if b = 0xE0 then some (2, 0xA0, 0xBF)
  else if b = 0xED then some (2, 0x80, 0x9F)
  else if 0xE1 ≤ b && b ≤ 0xEF then some (2, 0x80, 0xBF)
  else if b = 0xF0 then some (3, 0x90, 0xBF)
  else if 0xF1 ≤ b && b ≤ 0xF3 then some (3, 0x80, 0xBF)
  else if b = 0xF4 then some (3, 0x80, 0x8F)
  else none

/-- The bits of the character that a first byte carries, when `n` bytes follow it. -/
def leadBits (b : UInt8) (n : Nat) : Nat := b.toNat % Nat.pow 2 (6 - n)

/-- Where the scan stands: at the start of a character, or owed `owed` bytes with the next one
in a range. -/
inductive State where
  | start
  | inside (acc owed : Nat) (lo hi : UInt8)

/-- Reads a byte at the start of a character. -/
def fresh (b : UInt8) : List Char × State :=
  if b < 0x80 then ([Char.ofNat b.toNat], .start)
  else
    match lead b with
    | some (n, lo, hi) => ([], .inside (leadBits b n) n lo hi)
    | none => ([mark], .start)

/-- Reads one byte. A byte out of range ends the part before it and starts anew. -/
def step (s : State) (b : UInt8) : List Char × State :=
  match s with
  | .start => fresh b
  | .inside acc owed lo hi =>
    if lo ≤ b && b ≤ hi then
      let acc := acc * 64 + b.toNat % 64
      if owed = 1 then ([Char.ofNat acc], .start) else ([], .inside acc (owed - 1) 0x80 0xBF)
    else
      let (cs, s) := fresh b
      (mark :: cs, s)

def run (s : State) : Bytes → List Char
  | [] =>
    match s with
    | .start => []
    | .inside .. => [mark]
  | b :: bs =>
    let (cs, s) := step s b
    cs ++ run s bs

end Lossy

/-- The text of a byte string, with one mark for each longest part that begins no character. -/
def lossy (bs : Bytes) : String := String.ofList (Lossy.run .start bs)

end TreeHaul.Text
