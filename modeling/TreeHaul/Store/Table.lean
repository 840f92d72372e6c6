import TreeHaul.Store.Chain
import TreeHaul.Store.Hash

/-!
The keyed store: a table of chains with a hash function of the caller's choice.

A key lives in the bucket that its hash selects; a new node goes to the head of its chain. Each
operation answers with a result and the table afterwards, so that "a refused operation changes
nothing" is a statement about the table that comes back.
-/

universe u

namespace TreeHaul.Store

/-- Why an operation on a table was refused. -/
inductive StoreError where
  | zeroBuckets
  | duplicate (key : String)
  | notFound (key : String)
  | allocation (buckets : Nat)
  deriving DecidableEq, Repr

namespace StoreError

def message : StoreError → String
  | zeroBuckets => "bucket count must be greater than zero"
  | duplicate key => "duplicate key: " ++ key
  | notFound key => "key not found: " ++ key
  | allocation buckets => "failed to allocate " ++ toString buckets ++ " buckets"

end StoreError

/-- Bytes that one bucket takes. -/
def bucketBytes : Nat := 8

/-- The most bytes that one block of memory may have. -/
def maxBlockBytes : Nat := 0x7FFFFFFFFFFFFFFF

/-- An array of `count` empty chains, refused before any memory is taken if it cannot exist. -/
def emptyBuckets (V : Type u) (count : Nat) : Except StoreError (Array (Chain V)) :=
  if count = 0 then .error .zeroBuckets
  else if bucketBytes * count > maxBlockBytes then .error (.allocation count)
  else .ok (Array.replicate count [])

/-- The bucket that a hash selects among `count`. -/
def slotOf (hash : KeyHash) (key : String) (count : Nat) : Nat := (hash key).toNat % count

/-- A chained hash table from keys to payloads. -/
structure Table (V : Type u) where
  hash : KeyHash
  buckets : Array (Chain V)
  size : Nat

namespace Table

variable {V : Type u}

/-- A table of `count` empty chains that spreads keys with `hash`. -/
def create (hash : KeyHash) (count : Nat) : Except StoreError (Table V) :=
  (emptyBuckets V count).map fun buckets => ⟨hash, buckets, 0⟩

def isEmpty (t : Table V) : Bool := t.size == 0

def bucketCount (t : Table V) : Nat := t.buckets.size

/-- The bucket of a key. -/
def slot (t : Table V) (key : String) : Nat := slotOf t.hash key t.buckets.size

/-- The chain in which a key is looked for. -/
def chainOf (t : Table V) (key : String) : Chain V := (t.buckets[t.slot key]?).getD []

/-- All pairs, bucket by bucket, each chain from its head. -/
def toList (t : Table V) : List (String × V) := t.buckets.toList.flatten

def keys (t : Table V) : List String := t.toList.map Prod.fst

def find? (t : Table V) (key : String) : Option V := (t.chainOf key).find? key

def contains (t : Table V) (key : String) : Bool := (t.find? key).isSome

/-- Puts a new node at the head of its chain, without a look at the keys there. -/
def pushFront (t : Table V) (key : String) (value : V) : Table V :=
  { t with buckets := t.buckets.modify (t.slot key) ((key, value) :: ·), size := t.size + 1 }

/-- Applies `f` to the payload of a key, in place. -/
def adjust (t : Table V) (key : String) (f : V → V) : Table V :=
  { t with buckets := t.buckets.modify (t.slot key) (Chain.modify key f) }

/-- Adds a key that is not there yet. -/
def insert (t : Table V) (key : String) (value : V) : Except StoreError Unit × Table V :=
  match t.find? key with
  | some _ => (.error (.duplicate key), t)
  | none => (.ok (), t.pushFront key value)

/-- Lets the caller change a payload in place, and answers with what the change left. -/
def modify? (t : Table V) (key : String) (f : V → V) : Option V × Table V :=
  match t.find? key with
  | some v => (some (f v), t.adjust key f)
  | none => (none, t)

/-- Overwrites the payload of a key that is there, and hands the old one back. -/
def update (t : Table V) (key : String) (value : V) : Except StoreError V × Table V :=
  match t.find? key with
  | some old => (.ok old, t.adjust key fun _ => value)
  | none => (.error (.notFound key), t)

/-- Changes the payload of a key that is there. -/
def updateWith (t : Table V) (key : String) (f : V → V) : Except StoreError Unit × Table V :=
  match t.find? key with
  | some _ => (.ok (), t.adjust key f)
  | none => (.error (.notFound key), t)

/-- Takes a key out and hands its payload back: one walk finds its place, a second unlinks it. -/
def remove (t : Table V) (key : String) : Except StoreError V × Table V :=
  match (t.chainOf key).position? key with
  | none => (.error (.notFound key), t)
  | some i =>
    match (t.chainOf key).unlink? i with
    | none => (.error (.notFound key), t)
    | some (v, rest) =>
      (.ok v, { t with buckets := t.buckets.modify (t.slot key) fun _ => rest, size := t.size - 1 })

/-- Moves one node to the head of its chain in another array of buckets. -/
def relink (hash : KeyHash) (buckets : Array (Chain V)) (node : String × V) : Array (Chain V) :=
  buckets.modify (slotOf hash node.1 buckets.size) (node :: ·)

/-- Spreads all nodes over `count` chains, in the order of the old buckets. The new buckets are
made before a node moves. -/
def resize (t : Table V) (count : Nat) : Except StoreError Unit × Table V :=
  match emptyBuckets V count with
  | .error e => (.error e, t)
  | .ok fresh =>
    (.ok (), { t with
      buckets := t.buckets.foldl (fun acc chain => chain.foldl (relink t.hash) acc) fresh })

/-- Drops every node and keeps the buckets. -/
def clear (t : Table V) : Table V :=
  { t with buckets := t.buckets.map fun _ => [], size := 0 }

/-- Adds to the running total of a key with `plus`; a key that is not there starts at `delta`. -/
def accumulate (t : Table V) (plus : V → V → V) (key : String) (delta : V) : V × Table V :=
  match t.find? key with
  | some total => (plus total delta, t.adjust key (plus · delta))
  | none => (delta, t.pushFront key delta)

@[simp] theorem size_pushFront (t : Table V) (key : String) (value : V) :
    (t.pushFront key value).size = t.size + 1 := rfl

@[simp] theorem size_adjust (t : Table V) (key : String) (f : V → V) :
    (t.adjust key f).size = t.size := rfl

@[simp] theorem bucketCount_pushFront (t : Table V) (key : String) (value : V) :
    (t.pushFront key value).bucketCount = t.bucketCount := by
  simp [bucketCount, pushFront]

@[simp] theorem bucketCount_adjust (t : Table V) (key : String) (f : V → V) :
    (t.adjust key f).bucketCount = t.bucketCount := by
  simp [bucketCount, adjust]

@[simp] theorem bucketCount_clear (t : Table V) : t.clear.bucketCount = t.bucketCount := by
  simp [bucketCount, clear]

@[simp] theorem toList_clear (t : Table V) : t.clear.toList = [] := by
  simp [toList, clear]

end Table

end TreeHaul.Store
