import TreeHaul.Path.Error
import TreeHaul.Path.Stat

/-!
The state of one path entry: its path, the last stat record, flags, and the last status.

A record counts only while the flags say that a stat was made and that it succeeded.
-/

namespace TreeHaul.Path

/-- What an entry remembers beside its record. -/
structure EntryFlags where
  /-- A stat was tried since the record was last given up. -/
  statCached : Bool
  /-- The record can be used. -/
  statOk : Bool
  /-- Queries look through links. -/
  follow : Bool
  /-- The record is of what a link points to. -/
  statFollowed : Bool
  /-- A file is open. -/
  fileOpen : Bool
  /-- A directory is open. -/
  dirOpen : Bool
  deriving DecidableEq, Repr

namespace EntryFlags

def none : EntryFlags := ⟨false, false, false, false, false, false⟩

/-- The flags as one number, a power of two for each. -/
def bits (f : EntryFlags) : Nat :=
  f.statCached.toNat + 2 * f.statOk.toNat + 4 * f.follow.toNat + 8 * f.statFollowed.toNat
    + 16 * f.fileOpen.toNat + 32 * f.dirOpen.toNat

end EntryFlags

/-- One logical object of a file system, whatever its backend. -/
structure Entry where
  path : String
  stat? : Option Stat
  flags : EntryFlags
  status : Status
  deriving DecidableEq, Repr

namespace Entry

/-- An entry that nothing is known of yet. -/
def ofPath (path : String) : Entry := ⟨path, none, .none, .initial⟩

/-- Forgets everything and takes on another path. -/
def reset (e : Entry) (path : String) : Entry :=
  { e with path, stat? := none, flags := .none, status := .initial }

/-- The record, if the last stat succeeded and nothing changed since. -/
def cachedStat? (e : Entry) : Option Stat :=
  if e.flags.statCached && e.flags.statOk then e.stat? else none

def isOpen (e : Entry) : Bool := e.flags.fileOpen || e.flags.dirOpen

def setFollow (e : Entry) : Entry := { e with flags := { e.flags with follow := true } }

def setFileOpen (e : Entry) (b : Bool) : Entry := { e with flags := { e.flags with fileOpen := b } }

def setDirOpen (e : Entry) (b : Bool) : Entry := { e with flags := { e.flags with dirOpen := b } }

/-- Keeps a fresh record. -/
def cacheStat (e : Entry) (s : Stat) (followed : Bool) : Entry :=
  { e with
    stat? := some s
    flags := { e.flags with statCached := true, statOk := true, statFollowed := followed } }

/-- Notes a failed stat; the record kept before no longer counts. -/
def statFailed (e : Entry) : Entry :=
  { e with flags := { e.flags with statCached := true, statOk := false, statFollowed := false } }

/-- Gives the record up. -/
def invalidateStat (e : Entry) : Entry :=
  { e with flags := { e.flags with statCached := false, statOk := false, statFollowed := false } }

/-- Notes how a call ended. -/
def record {α : Type} (e : Entry) (op : String) (r : Except PathError α) : Entry :=
  { e with status :=
      match r with
      | .ok _ => .ok op
      | .error err => err.status op }

/-- Notes how a call ended that may have changed the object: after a success the record is
given up. -/
def recordMutation {α : Type} (e : Entry) (op : String) (r : Except PathError α) : Entry :=
  match r with
  | .ok _ => e.invalidateStat.record op r
  | .error _ => e.record op r

/-- The error of a call in the wrong state. -/
def rejected (e : Entry) (op reason : String) : PathError := .invalidState op e.path reason

@[simp] theorem reset_eq (e : Entry) (path : String) : e.reset path = .ofPath path := rfl

@[simp] theorem path_record {α : Type} (e : Entry) (op : String) (r : Except PathError α) :
    (e.record op r).path = e.path := rfl

@[simp] theorem flags_record {α : Type} (e : Entry) (op : String) (r : Except PathError α) :
    (e.record op r).flags = e.flags := rfl

@[simp] theorem stat?_record {α : Type} (e : Entry) (op : String) (r : Except PathError α) :
    (e.record op r).stat? = e.stat? := rfl

@[simp] theorem cachedStat?_invalidateStat (e : Entry) : e.invalidateStat.cachedStat? = none := rfl

@[simp] theorem cachedStat?_statFailed (e : Entry) : e.statFailed.cachedStat? = none := rfl

@[simp] theorem cachedStat?_cacheStat (e : Entry) (s : Stat) (b : Bool) :
    (e.cacheStat s b).cachedStat? = some s := rfl

end Entry

end TreeHaul.Path
