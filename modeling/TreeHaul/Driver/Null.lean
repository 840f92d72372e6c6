import TreeHaul.Driver.Basic

/-!
The null tree: every path below the null device can be written to and nothing is kept. Reads give
zeros. The only call to the system is a stat of a stand-in.
-/

universe u

namespace TreeHaul

open TreeHaul.Os TreeHaul.Path TreeHaul.Text

/-- A path in the null tree. It is a directory if it ends with a slash or was made one. -/
structure Null where
  entry : Entry
  asDir : Bool
  deriving DecidableEq, Repr

namespace Null

variable {σ : Type u} {α : Type} [System σ]

def endsWithSlash (path : String) : Bool := path.toList.getLast? == some '/'

def ofPath (path : String) : Null := ⟨.ofPath path, endsWithSlash path⟩

instance : HasEntry Null where
  backend _ := .null
  entry := Null.entry
  setEntry d e := { d with entry := e }
  fansIn _ := true

open Driver

/-- What is asked for in place of the path. -/
def standIn (d : Null) : String := if d.asDir then "/dev" else Backend.nullDevice

/-- Everything may be read, nothing written or run. -/
def probe (op : String) (mode : AccessMode) (d : Null) (w : σ) : Outcome σ Null Unit :=
  observed op
    (if AccessMode.read.contains mode then .ok ()
      else .error (.ofIo op d.entry.path (.raw Errno.access))) d w

def openFile (d : Null) (w : σ) : Outcome σ Null Unit :=
  if d.entry.flags.fileOpen then rejected "open" "file already open" d w
  else observed "open" (.ok ()) { d with entry := d.entry.setFileOpen true } w

def closeFile (d : Null) (w : σ) : Outcome σ Null Unit :=
  if d.entry.flags.fileOpen then
    changed "close" (.ok ()) { d with entry := d.entry.setFileOpen false } w
  else rejected "close" "not open" d w

def openDir (d : Null) (w : σ) : Outcome σ Null Unit :=
  if d.entry.flags.dirOpen then rejected "open_dir" "directory already open" d w
  else observed "open_dir" (.ok ()) { d with entry := d.entry.setDirOpen true } w

def closeDir (d : Null) (w : σ) : Outcome σ Null Unit :=
  if d.entry.flags.dirOpen then
    changed "close_dir" (.ok ()) { d with entry := d.entry.setDirOpen false } w
  else rejected "close_dir" "not open" d w

/-- Passes a call on only while a file is open. -/
def whileOpen (op : String) (a : α) (d : Null) (w : σ) : Outcome σ Null α :=
  if d.entry.flags.fileOpen then observed op (.ok a) d w else rejected op "not open" d w

def readDirEntry (d : Null) (w : σ) : Outcome σ Null (Option String) :=
  if d.entry.flags.dirOpen then observed "read_dir_entry" (.ok none) d w
  else rejected "read_dir_entry" "not open" d w

def perform : Request α → Null → σ → Outcome σ Null α
  | .statUncached _, d, w =>
    let (r, w) := System.call (.stat d.standIn true) w
    ((r.mapError (.ofIo "stat" d.entry.path)).map Stat.ofMetadata, d, w)
  | .access mode, d, w => d.probe "access" mode w
  | .accessAt mode _, d, w => d.probe "access_at" mode w
  | .open_ .., d, w => d.openFile w
  | .close, d, w => d.closeFile w
  | .openDir, d, w => d.openDir w
  | .closeDir, d, w => d.closeDir w
  | .readDirEntry, d, w => d.readDirEntry w
  | .read len _, d, w => d.whileOpen "read" (List.replicate len 0) w
  | .write data _, d, w => d.whileOpen "write" data.length w
  | .mkdir _, d, w => changed "mkdir" (.ok ()) { d with asDir := true } w
  | .remove, d, w => changed "unlink" (.ok ()) d w
  | .unlink, d, w => changed "unlink" (.ok ()) d w
  | .symlink _, d, w => declined "symlink" d w
  | .readLink _, d, w => declined "read_link" d w
  | .chown .., d, w => changed "chown" (.ok ()) d w
  | .chmod _, d, w => changed "chmod" (.ok ()) d w
  | .setTimes _, d, w => changed "set_times" (.ok .returned) d w
  | .canonicalPath, d, w => observed "canonical_path" (.ok d.entry.path) d w

def finalize (d : Null) (w : σ) : Null × σ := Release.byFlags Null.perform d w

def reset (path : String) (d : Null) (w : σ) : Null × σ :=
  let (d, w) := Release.renew Null.finalize path d w
  ({ d with asDir := endsWithSlash path }, w)

instance : Driver σ Null where
  perform := Null.perform
  finalize := Null.finalize
  reset := Null.reset

end Null

end TreeHaul
