import TreeHaul.Driver.Basic

/-!
Plain paths: each capability is a call to the system on the path as given.

A file and a directory may be open, each at most once; their handles say so, and the flags of the
entry follow the handles. A directory that could not be read on is at its end.
-/

universe u

namespace TreeHaul

open TreeHaul.Os TreeHaul.Path TreeHaul.Text

/-- The names of an open directory. Once it is at its end, or could not be read, there are no more:
the system is not asked again. -/
structure DirReader where
  handle : Handle
  ended : Bool
  deriving DecidableEq, Repr

namespace DirReader

variable {σ : Type u} [System σ]

def start (h : Handle) : DirReader := ⟨h, false⟩

/-- Nothing is asked for after this answer. -/
def isLast : Except IoError (Option Bytes) → Bool
  | .ok (some _) => false
  | .ok none | .error _ => true

def next (r : DirReader) (w : σ) : Except IoError (Option Bytes) × DirReader × σ :=
  if r.ended then (.ok none, r, w)
  else
    let (x, w) := System.call (.nextName r.handle) w
    (x, ⟨r.handle, isLast x⟩, w)

theorem next_start (h : Handle) (w : σ) :
    next (start h) w =
      ((System.call (.nextName h) w).1, ⟨h, isLast (System.call (.nextName h) w).1⟩,
        (System.call (.nextName h) w).2) := rfl

end DirReader

/-- A plain path with what it holds open. -/
structure Posix where
  entry : Entry
  file? : Option Handle
  dir? : Option DirReader
  deriving DecidableEq, Repr

namespace Posix

variable {σ : Type u} {α : Type} [System σ]

def ofPath (path : String) : Posix := ⟨.ofPath path, none, none⟩

instance : HasEntry Posix where
  backend _ := .posix
  entry := Posix.entry
  setEntry d e := { d with entry := e }
  fansIn _ := false

open Driver

/-- Issues a call on behalf of a capability. -/
def issue (op : String) (c : Syscall α) (d : Posix) (w : σ) : Except PathError α × σ :=
  let (r, w) := System.call c w
  (r.mapError (.ofIo op d.entry.path), w)

/-- A call that changes nothing. -/
def observing (op : String) (c : Syscall α) (d : Posix) (w : σ) : Outcome σ Posix α :=
  let (r, w) := d.issue op c w
  observed op r d w

/-- A call that changes the object. -/
def changing (op : String) (c : Syscall α) (d : Posix) (w : σ) : Outcome σ Posix α :=
  let (r, w) := d.issue op c w
  changed op r d w

/-- Closes a handle, which cannot fail. -/
def drop (h : Handle) (w : σ) : σ := (System.call (.close h) w).2

/-- A name that is not UTF-8 could not be asked for again. -/
def nameOf (bytes : Bytes) : Except PathError String :=
  match ofBytes? bytes with
  | some name => .ok name
  | none => .error (.invalidPath (lossy bytes))

def openFile (flags : OpenFlags) (mode : UInt32) (d : Posix) (w : σ) : Outcome σ Posix Unit :=
  match d.file? with
  | some _ => rejected "open" "file already open" d w
  | none =>
    match d.issue "open" (.open_ d.entry.path flags mode) w with
    | (.error e, w) => observed "open" (.error e) d w
    | (.ok h, w) =>
      let e := d.entry.setFileOpen true
      let e := if flags.mutates then e.invalidateStat else e
      observed "open" (.ok ()) { d with file? := some h, entry := e } w

def closeFile (d : Posix) (w : σ) : Outcome σ Posix Unit :=
  match d.file? with
  | none => rejected "close" "file not open" d w
  | some h =>
    changed "close" (.ok ()) { d with file? := none, entry := d.entry.setFileOpen false } (drop h w)

def openDir (d : Posix) (w : σ) : Outcome σ Posix Unit :=
  match d.dir? with
  | some _ => rejected "open_dir" "directory already open" d w
  | none =>
    match d.issue "open_dir" (.openDir d.entry.path) w with
    | (.error e, w) => observed "open_dir" (.error e) d w
    | (.ok h, w) =>
      observed "open_dir" (.ok ()) { d with dir? := some (.start h), entry := d.entry.setDirOpen true } w

def closeDir (d : Posix) (w : σ) : Outcome σ Posix Unit :=
  match d.dir? with
  | none => rejected "close_dir" "directory not open" d w
  | some r =>
    changed "close_dir" (.ok ()) { d with dir? := none, entry := d.entry.setDirOpen false }
      (drop r.handle w)

/-- What is answered where the system gave a name, or none, or failed. Errors name `path`. -/
def nameAnswer (path : String) (x : Except IoError (Option Bytes)) :
    Except PathError (Option String) :=
  (x.mapError (.ofIo "read_dir_entry" path)).bind fun name? =>
    match name? with
    | none => .ok none
    | some bytes => (nameOf bytes).map some

/-- The next name of an open directory. -/
def nextName (path : String) (r : DirReader) (w : σ) :
    Except PathError (Option String) × DirReader × σ :=
  let (x, r, w) := r.next w
  (nameAnswer path x, r, w)

def readDirEntry (d : Posix) (w : σ) : Outcome σ Posix (Option String) :=
  match d.dir? with
  | none => rejected "read_dir_entry" "directory not open" d w
  | some r =>
    let (name, r, w) := nextName d.entry.path r w
    observed "read_dir_entry" name { d with dir? := some r } w

theorem readDirEntry_of_open {d : Posix} {r : DirReader} (hd : d.dir? = some r) (w : σ) :
    d.readDirEntry w = observed "read_dir_entry" (nextName d.entry.path r w).1
      { d with dir? := some (nextName d.entry.path r w).2.1 } (nextName d.entry.path r w).2.2 := by
  rw [readDirEntry, hd]

def read (len : Nat) (offset : UInt64) (d : Posix) (w : σ) : Outcome σ Posix Bytes :=
  match d.file? with
  | none => rejected "read" "file not open" d w
  | some h => d.observing "read" (.readAt h len offset) w

def write (data : Bytes) (offset : UInt64) (d : Posix) (w : σ) : Outcome σ Posix Nat :=
  match d.file? with
  | none => rejected "write" "file not open" d w
  | some h => d.changing "write" (.writeAt h data offset) w

/-- A probe by path takes absolute paths only. -/
def accessAt (mode : AccessMode) (flags : AccessFlags) (d : Posix) (w : σ) : Outcome σ Posix Unit :=
  match d.entry.path.toList with
  | '/' :: _ => d.observing "access_at" (.accessAt d.entry.path mode flags) w
  | _ => observed "access_at" (.error (.invalidPath d.entry.path)) d w

def unlink (d : Posix) (w : σ) : Outcome σ Posix Unit :=
  d.changing "unlink" (.unlink d.entry.path) w

def canonicalPath (d : Posix) (w : σ) : Outcome σ Posix String :=
  let (r, w) := d.issue "canonical_path" (.canonicalize d.entry.path) w
  observed "canonical_path" (r.bind nameOf) d w

/-- Both times are made into stamps before the system is called. Where that stops, nothing is noted. -/
def setTimes (a : Arith) (t : SetTimes) (d : Posix) (w : σ) : Outcome σ Posix Completion :=
  match t.accessed.toStamp a, t.modified.toStamp a with
  | some accessed, some modified =>
    let (r, w) := d.issue "set_times" (.setTimes d.entry.path accessed modified t.followLinks) w
    changed "set_times" (r.map fun _ => .returned) d w
  | _, _ => (.ok .stopped, d, w)

def perform : Request α → Posix → σ → Outcome σ Posix α
  | .statUncached follow, d, w =>
    let (r, w) := d.issue "stat" (.stat d.entry.path follow) w
    (r.map Stat.ofMetadata, d, w)
  | .access mode, d, w => d.observing "access" (.access d.entry.path mode) w
  | .accessAt mode flags, d, w => d.accessAt mode flags w
  | .open_ flags mode, d, w => d.openFile flags mode w
  | .close, d, w => d.closeFile w
  | .openDir, d, w => d.openDir w
  | .closeDir, d, w => d.closeDir w
  | .readDirEntry, d, w => d.readDirEntry w
  | .read len offset, d, w => d.read len offset w
  | .write data offset, d, w => d.write data offset w
  | .mkdir mode, d, w => d.changing "mkdir" (.mkdir d.entry.path mode) w
  | .remove, d, w => d.unlink w
  | .unlink, d, w => d.unlink w
  | .symlink target, d, w => d.changing "symlink" (.symlink target d.entry.path) w
  | .readLink len, d, w =>
    let (r, w) := d.issue "read_link" (.readLink d.entry.path) w
    observed "read_link" (r.map (·.take len)) d w
  | .chown uid gid, d, w => d.changing "chown" (.chown d.entry.path uid gid) w
  | .chmod mode, d, w => d.changing "chmod" (.chmod d.entry.path mode) w
  | .setTimes t, d, w => d.setTimes .checked t w
  | .canonicalPath, d, w => d.canonicalPath w

/-- Drops both handles, whatever the flags say. -/
def finalize (d : Posix) (w : σ) : Posix × σ :=
  let w := match d.file? with
    | some h => drop h w
    | none => w
  let w := match d.dir? with
    | some r => drop r.handle w
    | none => w
  let e := if d.file?.isSome || d.dir?.isSome then d.entry.invalidateStat else d.entry
  (⟨(e.setFileOpen false).setDirOpen false, none, none⟩, w)

def reset (path : String) (d : Posix) (w : σ) : Posix × σ :=
  Release.renew Posix.finalize path d w

instance : Driver σ Posix where
  perform := Posix.perform
  finalize := Posix.finalize
  reset := Posix.reset

end Posix

end TreeHaul
