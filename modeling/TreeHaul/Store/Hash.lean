import TreeHaul.Text.Bytes

/-!
Hashes of keys.

A key is hashed over its UTF-8 bytes from left to right, modulo `2 ^ 64`. Each hash is a left
fold, so a key with a given beginning continues from the state which that beginning leaves.
-/

namespace TreeHaul.Store

open TreeHaul.Text (bytesOf)

/-- What spreads keys over buckets. -/
abbrev KeyHash := String → UInt64

namespace Fnv1a

def basis : UInt64 := 0xcbf29ce484222325

/-- An odd prime, so multiplying by it permutes the words. -/
def prime : UInt64 := 0x100000001b3

def step (h : UInt64) (b : UInt8) : UInt64 := (h ^^^ b.toUInt64) * prime

def run (h : UInt64) (bytes : List UInt8) : UInt64 := bytes.foldl step h

@[simp] theorem run_nil (h : UInt64) : run h [] = h := rfl
@[simp] theorem run_cons (h : UInt64) (b : UInt8) (bs : List UInt8) :
    run h (b :: bs) = run (step h b) bs := rfl
theorem run_append (h : UInt64) (u v : List UInt8) : run h (u ++ v) = run (run h u) v := by
  simp [run, List.foldl_append]

end Fnv1a

/-- The 64-bit FNV-1a hash: exclusive or with the byte, then times the prime. -/
def fnv1a : KeyHash := fun key => Fnv1a.run Fnv1a.basis (bytesOf key)

/-- The sum of the bytes. Keys that are permutations of each other collide. -/
def byteSum : KeyHash := fun key => (bytesOf key).foldl (fun h b => h + b.toUInt64) 0

end TreeHaul.Store
