import TreeHaul.Os.Syscall
import TreeHaul.Path.Entry

/-!
What every driver of paths can be asked, and what follows from that for all of them.

A driver answers requests; the stat cache, the queries built on it and the release of resources by
flags are the same for every driver and stand here once.
-/

universe u

namespace TreeHaul

open TreeHaul.Path TreeHaul.Text

/-- How a call ends that fails in no way it could report. -/
inductive Completion where
  | returned
  /-- The program stops in the call, as a number would leave its range. -/
  | stopped
  deriving DecidableEq, Repr

/-- A capability that each driver provides or declines in its own way. -/
inductive Request : Type → Type where
  /-- A stat that neither uses nor fills the cache. -/
  | statUncached (follow : Bool) : Request Stat
  | access (mode : AccessMode) : Request Unit
  | accessAt (mode : AccessMode) (flags : AccessFlags) : Request Unit
  | open_ (flags : OpenFlags) (mode : UInt32) : Request Unit
  | close : Request Unit
  | openDir : Request Unit
  | closeDir : Request Unit
  /-- The next name of the open directory, or nothing at its end. -/
  | readDirEntry : Request (Option String)
  | read (len : Nat) (offset : UInt64) : Request Bytes
  | write (data : Bytes) (offset : UInt64) : Request Nat
  | mkdir (mode : UInt32) : Request Unit
  | remove : Request Unit
  | unlink : Request Unit
  | symlink (target : String) : Request Unit
  /-- The target of a link, cut to `len` bytes. -/
  | readLink (len : Nat) : Request Bytes
  | chown (uid gid : UInt32) : Request Unit
  | chmod (mode : UInt32) : Request Unit
  | setTimes (times : SetTimes) : Request Completion
  | canonicalPath : Request String

namespace Request

/-- The name under which a capability is recorded and reported. -/
def name {α : Type} : Request α → String
  | statUncached _ => "stat"
  | access _ => "access"
  | accessAt .. => "access_at"
  | open_ .. => "open"
  | close => "close"
  | openDir => "open_dir"
  | closeDir => "close_dir"
  | readDirEntry => "read_dir_entry"
  | read .. => "read"
  | write .. => "write"
  | mkdir _ => "mkdir"
  | remove => "remove"
  | unlink => "unlink"
  | symlink _ => "symlink"
  | readLink _ => "read_link"
  | chown .. => "chown"
  | chmod _ => "chmod"
  | setTimes _ => "set_times"
  | canonicalPath => "canonical_path"

/-- The program did not stop in the request. -/
def completed : {α : Type} → Request α → α → Bool
  | _, setTimes _, c => c == .returned
  | _, _, _ => true

/-- The request was carried out: it did not fail, and the program did not stop in it. -/
def succeeded {α : Type} (r : Request α) : Except PathError α → Bool
  | .ok a => r.completed a
  | .error _ => false

end Request

/-- Something with the state of an entry in it. -/
class HasEntry (δ : Type) where
  backend : δ → Backend
  entry : δ → Entry
  setEntry : δ → Entry → δ
  /-- Many sources may be written into one destination at once. -/
  fansIn : δ → Bool

/-- What a call leaves: its result, the driver and the world. -/
abbrev Outcome (σ : Type u) (δ α : Type) := Except PathError α × δ × σ

/-- A driver of paths in worlds of type `σ`. -/
class Driver (σ : Type u) (δ : Type) extends HasEntry δ where
  perform : {α : Type} → Request α → δ → σ → Outcome σ δ α
  /-- Releases whatever is open. -/
  finalize : δ → σ → δ × σ
  /-- Releases whatever is open and takes on another path. -/
  reset : String → δ → σ → δ × σ

namespace Driver

variable {σ : Type u} {δ α : Type}

section Notes

variable [HasEntry δ]

open HasEntry

def path (d : δ) : String := (entry d).path

def mapEntry (f : Entry → Entry) (d : δ) : δ := setEntry d (f (entry d))

/-- Notes how a call ended. -/
def observed (op : String) (r : Except PathError α) (d : δ) (w : σ) : Outcome σ δ α :=
  (r, mapEntry (·.record op r) d, w)

/-- Notes how a call ended that may have changed the object. -/
def changed (op : String) (r : Except PathError α) (d : δ) (w : σ) : Outcome σ δ α :=
  (r, mapEntry (·.recordMutation op r) d, w)

/-- Fails a call that the backend does not have. -/
def declined (op : String) (d : δ) (w : σ) : Outcome σ δ α :=
  observed op (.error (.unsupported op (backend d))) d w

/-- Fails a call in the wrong state. -/
def rejected (op reason : String) (d : δ) (w : σ) : Outcome σ δ α :=
  observed op (.error ((entry d).rejected op reason)) d w

/-- The last status, as one line. -/
def describe (d : δ) : String := (entry d).status.describe

/-- From now on queries look through links. -/
def follow (d : δ) : δ := mapEntry (fun e => e.setFollow.invalidateStat) d

end Notes

variable [Driver σ δ]

open HasEntry

/-- Asks the backend and keeps its answer. -/
def refresh (follow : Bool) (d : δ) (w : σ) : Outcome σ δ Stat :=
  let (r, d, w) := perform (.statUncached follow) d w
  let keep (e : Entry) : Entry :=
    match r with
    | .ok s => e.cacheStat s follow
    | .error _ => e.statFailed
  observed "stat" r (mapEntry keep d) w

/-- Stats the object. The record is used again if it was made under the same link policy. -/
def stat (follow : Bool) (d : δ) (w : σ) : Outcome σ δ Stat :=
  match (entry d).cachedStat? with
  | some s =>
    if (entry d).flags.statFollowed = follow then observed "stat" (.ok s) d w
    else refresh follow d w
  | none => refresh follow d w

/-- Stats the object under the entry's own link policy. -/
def statDefault (d : δ) (w : σ) : Outcome σ δ Stat := stat (entry d).flags.follow d w

def exists? (d : δ) (w : σ) : Bool × δ × σ :=
  let (r, d, w) := statDefault d w
  (r.isOk, d, w)

def isDir (d : δ) (w : σ) : Bool × δ × σ :=
  let (r, d, w) := statDefault d w
  (match r with
    | .ok s => s.isDir
    | .error _ => false, d, w)

/-- The object itself is a symbolic link. -/
def isLink (d : δ) (w : σ) : Bool × δ × σ :=
  let (r, d, w) := stat false d w
  (match r with
    | .ok s => s.isSymlink
    | .error _ => false, d, w)

def size (d : δ) (w : σ) : Outcome σ δ UInt64 :=
  let (r, d, w) := statDefault d w
  (r.map Stat.size, d, w)

def mtime (d : δ) (w : σ) : Outcome σ δ Instant :=
  let (r, d, w) := statDefault d w
  (r.map Stat.mtime, d, w)

/-- Whether two entries name one object. Both are asked anew, the second only if the first
answers; entries of different backends are not asked. -/
def identical (a b : δ) (w : σ) : Except PathError Bool × δ × δ × σ :=
  if backend a ≠ backend b then (.ok false, a, b, w)
  else
    let a := mapEntry Entry.invalidateStat a
    let b := mapEntry Entry.invalidateStat b
    match statDefault a w with
    | (.error e, a, w) => (.error e, a, b, w)
    | (.ok mine, a, w) =>
      match statDefault b w with
      | (.error e, b, w) => (.error e, a, b, w)
      | (.ok theirs, b, w) => (.ok (mine.sameObject theirs), a, b, w)

end Driver

namespace Release

variable {σ : Type u} {δ : Type} [HasEntry δ]

open HasEntry Driver

/-- Closes what the flags say is open, and clears those flags whatever the close answered. -/
def byFlags (perform : {α : Type} → Request α → δ → σ → Outcome σ δ α) (d : δ) (w : σ) : δ × σ :=
  let flags := (entry d).flags
  let (d, w) :=
    if flags.fileOpen then
      let (_, d, w) := perform .close d w
      (mapEntry (·.setFileOpen false) d, w)
    else (d, w)
  if flags.dirOpen then
    let (_, d, w) := perform .closeDir d w
    (mapEntry (·.setDirOpen false) d, w)
  else (d, w)

/-- Releases whatever is open, then takes on another path. -/
def renew (finalize : δ → σ → δ × σ) (path : String) (d : δ) (w : σ) : δ × σ :=
  let (d, w) := finalize d w
  (mapEntry (·.reset path) d, w)

end Release

end TreeHaul
