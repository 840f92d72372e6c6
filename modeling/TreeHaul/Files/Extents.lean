import TreeHaul.Text.Bytes

/-!
Byte strings with holes: what was written, piece by piece, over zeros.
-/

namespace TreeHaul.Files

open TreeHaul.Text (Bytes)

/-- Pieces at their offsets, the latest first, in a string of `size` bytes. -/
structure Extents where
  size : Nat
  pieces : List (Nat × Bytes)

namespace Extents

def empty : Extents := ⟨0, []⟩

def ofBytes (bs : Bytes) : Extents := ⟨bs.length, [(0, bs)]⟩

/-- Lays a piece over what stands at `offset`, keeping its length. -/
def overlay (offset : Nat) (piece : Nat × Bytes) (under : Bytes) : Bytes :=
  let before := piece.1 - offset
  let shown := (piece.2.drop (offset - piece.1)).take (under.length - before)
  under.take before ++ shown ++ under.drop (before + shown.length)

/-- The bytes from `offset` on, `len` of them at most. -/
def read (e : Extents) (offset len : Nat) : Bytes :=
  match e.pieces with
  | [(0, bs)] => (bs.drop offset).take len
  | pieces =>
    pieces.foldr (overlay offset) (List.replicate (min len (e.size - offset)) 0)

/-- All bytes from `offset` on. -/
def rest (e : Extents) (offset : Nat) : Bytes :=
  match e.pieces with
  | [(0, bs)] => bs.drop offset
  | _ => e.read offset (e.size - offset)

def bytes (e : Extents) : Bytes := e.rest 0

/-- Writes over what stands at `offset`; what lies between the old end and there is a hole. -/
def write (e : Extents) (offset : Nat) (bs : Bytes) : Extents :=
  if bs.isEmpty then e
  else if offset = 0 && e.size ≤ bs.length then ofBytes bs
  else ⟨max e.size (offset + bs.length), (offset, bs) :: e.pieces⟩

end Extents

end TreeHaul.Files
