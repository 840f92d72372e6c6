import TreeHaul.Path.Stat

/-!
A stat record as a document of named fields, and back. Times are lengths of time since the epoch,
so a record with an earlier time has no document.
-/

namespace TreeHaul.Path

/-- The value of one field. -/
inductive Field where
  | text (s : String)
  | number (n : Nat)
  | time (secs nanos : Nat)
  deriving DecidableEq, Repr

abbrev Document := List (String × Field)

namespace Instant

def field? (t : Instant) : Option Field :=
  match t.fromEpoch with
  | .ok d => some (.time d.secs.toNat d.nanos.val)
  | .error _ => none

def ofField? : Field → Option Instant
  | .time secs nanos => Instant.ofSecs? secs (nanosOf nanos)
  | _ => none

end Instant

namespace Document

/-- Why a record has no document. -/
def tooEarly : String := "SystemTime must be later than UNIX_EPOCH"

def number? (d : Document) (name : String) : Option Nat :=
  match d.lookup name with
  | some (.number n) => some n
  | _ => none

def time? (d : Document) (name : String) : Option Instant := (d.lookup name).bind Instant.ofField?

def ofStat? (s : Stat) : Option Document := do
  let atime ← s.atime.field?
  let mtime ← s.mtime.field?
  let ctime ← s.ctime.field?
  return [
    ("kind", .text s.kind.name), ("mode", .number s.mode.toNat), ("size", .number s.size.toNat),
    ("atime", atime), ("mtime", mtime), ("ctime", ctime), ("ino", .number s.ino.toNat),
    ("dev", .number s.dev.toNat), ("nlink", .number s.nlink.toNat), ("uid", .number s.uid.toNat),
    ("gid", .number s.gid.toNat), ("blocks", .number s.blocks.toNat)]

def kind? (d : Document) : Option FileKind :=
  match d.lookup "kind" with
  | some (.text s) => FileKind.ofName? s
  | _ => none

def toStat? (d : Document) : Option Stat := do
  return {
    kind := ← d.kind?
    mode := (← d.number? "mode").toUInt32
    size := (← d.number? "size").toUInt64
    atime := ← d.time? "atime"
    mtime := ← d.time? "mtime"
    ctime := ← d.time? "ctime"
    ino := (← d.number? "ino").toUInt64
    dev := (← d.number? "dev").toUInt64
    nlink := (← d.number? "nlink").toUInt64
    uid := (← d.number? "uid").toUInt32
    gid := (← d.number? "gid").toUInt32
    blocks := (← d.number? "blocks").toUInt64 }

end Document

end TreeHaul.Path
