import TreeHaul.Driver.Null

/-!
A driver that answers from a script and notes what it was asked, so that what all drivers share
can be watched by itself. It provides stat, the closing of resources and unlink, and declines
everything else.
-/

universe u

namespace TreeHaul

open TreeHaul.Os TreeHaul.Path TreeHaul.Text

/-- A world in which notes can be taken. -/
class Journal (σ : Type u) where
  note : String → σ → σ

/-- A world with the notes taken in it, the latest first. -/
structure Noted (σ : Type u) where
  world : σ
  notes : List String

instance {σ : Type u} : Journal (Noted σ) where
  note line w := { w with notes := line :: w.notes }

instance {σ : Type u} [System σ] : System (Noted σ) where
  call c w :=
    let (r, world) := System.call c w.world
    (r, { w with world := world })

structure Scripted where
  backend : Backend
  entry : Entry
  /-- The answers to stat, one after another; the last one is given from then on. -/
  answers : List (Except PathError Stat)
  position : Nat
  /-- What closing fails with. -/
  closeErrno? : Option Int

namespace Scripted

variable {σ : Type u} {α : Type} [Journal σ]

instance : HasEntry Scripted where
  backend := Scripted.backend
  entry := Scripted.entry
  setEntry d e := { d with entry := e }
  fansIn _ := false

open Driver

/-- The entry of a null path after a file, a directory or both were opened on it. -/
def openedEntry (path : String) (file dir : Bool) : Entry :=
  let d := Null.ofPath path
  let d := if file then (d.openFile ()).2.1 else d
  (if dir then (d.openDir ()).2.1 else d).entry

def start (backend : Backend) (path : String) (file dir : Bool)
    (answers : List (Except PathError Stat)) (closeErrno? : Option Int) : Scripted :=
  ⟨backend, if file || dir then openedEntry path file dir else .ofPath path, answers, 0,
    closeErrno?⟩

/-- The answer whose turn it is. -/
def answer (d : Scripted) : Except PathError Stat :=
  match d.answers[min d.position (d.answers.length - 1)]? with
  | some r => r
  | none => .error (.notFound d.entry.path)

def note (d : Scripted) (what : String) (w : σ) : σ :=
  Journal.note (d.entry.path ++ " " ++ what) w

def closing (op : String) (d : Scripted) (w : σ) : Outcome σ Scripted Unit :=
  changed op
    (match d.closeErrno? with
      | none => .ok ()
      | some n => .error (.ofIo op d.entry.path (.raw n))) d (d.note op w)

def perform : Request α → Scripted → σ → Outcome σ Scripted α
  | .statUncached follow, d, w =>
    (d.answer, { d with position := d.position + 1 },
      d.note (if follow then "stat true" else "stat false") w)
  | .close, d, w => d.closing "close" w
  | .closeDir, d, w => d.closing "close_dir" w
  | .remove, d, w => changed "unlink" (.ok ()) d (d.note "unlink" w)
  | .unlink, d, w => changed "unlink" (.ok ()) d (d.note "unlink" w)
  | .access _, d, w => declined "access" d w
  | .accessAt .., d, w => declined "access_at" d w
  | .open_ .., d, w => declined "open" d w
  | .openDir, d, w => declined "open_dir" d w
  | .readDirEntry, d, w => declined "read_dir_entry" d w
  | .read .., d, w => declined "read" d w
  | .write .., d, w => declined "write" d w
  | .mkdir _, d, w => declined "mkdir" d w
  | .symlink _, d, w => declined "symlink" d w
  | .readLink _, d, w => declined "read_link" d w
  | .chown .., d, w => declined "chown" d w
  | .chmod _, d, w => declined "chmod" d w
  | .setTimes _, d, w => declined "set_times" d w
  | .canonicalPath, d, w => declined "canonical_path" d w

def finalize (d : Scripted) (w : σ) : Scripted × σ := Release.byFlags Scripted.perform d w

def reset (path : String) (d : Scripted) (w : σ) : Scripted × σ :=
  Release.renew Scripted.finalize path d w

instance : Driver σ Scripted where
  perform := Scripted.perform
  finalize := Scripted.finalize
  reset := Scripted.reset

end Scripted

end TreeHaul
