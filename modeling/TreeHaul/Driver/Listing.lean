import TreeHaul.Driver.Manifest
import TreeHaul.Driver.Posix

/-!
List paths: whatever is behind the tag is shown as a directory of names, from a real directory or
from the lines of a manifest. Only stat, probes, enumeration and the canonical path are provided.
-/

universe u

namespace TreeHaul

open TreeHaul.Os TreeHaul.Path TreeHaul.Text

/-- The enumeration of an open list. -/
inductive ListCursor where
  | dir (reader : DirReader)
  | manifest (handle : Handle) (at_ : Manifest.Cursor)
  deriving DecidableEq, Repr

namespace ListCursor

def handle : ListCursor → Handle
  | dir r => r.handle
  | manifest h _ => h

end ListCursor

/-- A list path with the enumeration it holds open. -/
structure Listing where
  entry : Entry
  cursor? : Option ListCursor
  deriving DecidableEq, Repr

namespace Listing

variable {σ : Type u} {α : Type} [System σ]

def ofPath (path : String) : Listing := ⟨.ofPath path, none⟩

/-- A path without the tag of lists, if it has one. -/
def untagged (path : String) : String :=
  match Backend.rest? Backend.listTag path with
  | some rest => String.ofList rest
  | none => path

/-- The path that the system is asked for. -/
def realPath (d : Listing) : String := untagged d.entry.path

instance : HasEntry Listing where
  backend _ := .list
  entry := Listing.entry
  setEntry d e := { d with entry := e }
  fansIn _ := false

open Driver

/-- Issues a call on behalf of a capability; its errors name the path with the tag. -/
def issue (op : String) (c : Syscall α) (d : Listing) (w : σ) : Except PathError α × σ :=
  let (r, w) := System.call c w
  (r.mapError (.ofIo op d.entry.path), w)

def observing (op : String) (c : Syscall α) (d : Listing) (w : σ) : Outcome σ Listing α :=
  let (r, w) := d.issue op c w
  observed op r d w

def accessAt (mode : AccessMode) (flags : AccessFlags) (d : Listing) (w : σ) :
    Outcome σ Listing Unit :=
  match d.realPath.toList with
  | '/' :: _ => d.observing "access_at" (.accessAt d.realPath mode flags) w
  | _ => observed "access_at" (.error (.invalidPath d.entry.path)) d w

/-- Opens what the path names: a directory as such, anything else as a manifest. -/
def openCursor (real : String) (w : σ) : Except IoError ListCursor × σ :=
  match System.call (.stat real true) w with
  | (.error e, w) => (.error e, w)
  | (.ok m, w) =>
    if FileKind.ofMode m.mode = .directory then
      let (r, w) := System.call (.openDir real) w
      (r.map (.dir <| .start ·), w)
    else
      let (r, w) := System.call (.open_ real .readOnly 0o666) w
      (r.map (.manifest · .start), w)

def openDir (d : Listing) (w : σ) : Outcome σ Listing Unit :=
  match d.cursor? with
  | some _ => rejected "open_dir" "directory already open" d w
  | none =>
    match openCursor d.realPath w with
    | (.error e, w) => observed "open_dir" (.error (.ofIo "open_dir" d.entry.path e)) d w
    | (.ok c, w) =>
      observed "open_dir" (.ok ()) ⟨d.entry.setDirOpen true, some c⟩ w

theorem openDir_of_cursor {d : Listing} {c : ListCursor} {w w' : σ} (hclosed : d.cursor? = none)
    (hcursor : openCursor d.realPath w = (.ok c, w')) :
    d.openDir w = observed "open_dir" (.ok ()) ⟨d.entry.setDirOpen true, some c⟩ w' := by
  rw [openDir, hclosed]
  dsimp only
  rw [hcursor]

def closeDir (d : Listing) (w : σ) : Outcome σ Listing Unit :=
  match d.cursor? with
  | none => rejected "close_dir" "directory not open" d w
  | some c =>
    changed "close_dir" (.ok ()) ⟨d.entry.setDirOpen false, none⟩ (Posix.drop c.handle w)

/-- The next name of an enumeration, whose errors name `path`. -/
def nextName (path : String) (c : ListCursor) (w : σ) :
    Except PathError (Option String) × ListCursor × σ :=
  match c with
  | .dir r =>
    let (name, r, w) := Posix.nextName path r w
    (name, .dir r, w)
  | .manifest h at_ =>
    let failed := PathError.ofIo "read_dir_entry" path
    match at_.ready? with
    | some (r, at_) => (r.mapError failed, .manifest h at_, w)
    | none =>
      let (rest, w) := System.call (.readRest h at_.offset) w
      let (r, at_) := at_.resume (.ofAnswer rest)
      (r.mapError failed, .manifest h at_, w)

def readDirEntry (d : Listing) (w : σ) : Outcome σ Listing (Option String) :=
  match d.cursor? with
  | none => rejected "read_dir_entry" "directory not open" d w
  | some c =>
    let (r, c, w) := nextName d.entry.path c w
    observed "read_dir_entry" r { d with cursor? := some c } w

theorem readDirEntry_of_open {d : Listing} {c : ListCursor} (hc : d.cursor? = some c) (w : σ) :
    d.readDirEntry w = observed "read_dir_entry" (nextName d.entry.path c w).1
      { d with cursor? := some (nextName d.entry.path c w).2.1 }
      (nextName d.entry.path c w).2.2 := by
  rw [readDirEntry, hc]

def canonicalPath (d : Listing) (w : σ) : Outcome σ Listing String :=
  let (r, w) := d.issue "canonical_path" (.canonicalize d.realPath) w
  observed "canonical_path" ((r.bind Posix.nameOf).map (Backend.listTag ++ ·)) d w

def perform : Request α → Listing → σ → Outcome σ Listing α
  | .statUncached follow, d, w =>
    let (r, w) := d.issue "stat" (.stat d.realPath follow) w
    (r.map fun m => (Stat.ofMetadata m).asDirectory, d, w)
  | .access mode, d, w => d.observing "access" (.access d.realPath mode) w
  | .accessAt mode flags, d, w => d.accessAt mode flags w
  | .openDir, d, w => d.openDir w
  | .closeDir, d, w => d.closeDir w
  | .readDirEntry, d, w => d.readDirEntry w
  | .canonicalPath, d, w => d.canonicalPath w
  | .open_ .., d, w => declined "open" d w
  | .close, d, w => declined "close" d w
  | .read .., d, w => declined "read" d w
  | .write .., d, w => declined "write" d w
  | .mkdir _, d, w => declined "mkdir" d w
  | .remove, d, w => declined "remove" d w
  | .unlink, d, w => declined "unlink" d w
  | .symlink _, d, w => declined "symlink" d w
  | .readLink _, d, w => declined "read_link" d w
  | .chown .., d, w => declined "chown" d w
  | .chmod _, d, w => declined "chmod" d w
  | .setTimes _, d, w => declined "set_times" d w

/-- Drops the enumeration, whatever the flags say. -/
def finalize (d : Listing) (w : σ) : Listing × σ :=
  let w := match d.cursor? with
    | some c => Posix.drop c.handle w
    | none => w
  let e := if d.cursor?.isSome then d.entry.invalidateStat else d.entry
  (⟨(e.setFileOpen false).setDirOpen false, none⟩, w)

def reset (path : String) (d : Listing) (w : σ) : Listing × σ :=
  Release.renew Listing.finalize path d w

instance : Driver σ Listing where
  perform := Listing.perform
  finalize := Listing.finalize
  reset := Listing.reset

end Listing

end TreeHaul
