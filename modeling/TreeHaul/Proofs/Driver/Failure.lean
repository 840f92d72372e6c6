import TreeHaul.Files.System
import TreeHaul.Proofs.Driver.Endings
import TreeHaul.Proofs.Driver.Manifest

/-!
What a failure leaves behind. A driver that could not do what it was asked for is as before, but
for its status. Only where a name was looked for, the reading of names may stand elsewhere.
-/

universe u

namespace TreeHaul

open TreeHaul.Os TreeHaul.Path TreeHaul.Text HasEntry

/-- The driver with another status. -/
def Driver.noting {δ : Type} [HasEntry δ] (s : Status) (d : δ) : δ :=
  Driver.mapEntry (fun e => { e with status := s }) d

variable {σ : Type u} [System σ] {α : Type}

/-! ### Names that cannot be given -/

/-- A directory that was not at its end could not be read on, and counts as read to its end. -/
structure DirReader.Breaks (path : String) (err : PathError) (w : σ) (r r' : DirReader) : Prop where
  open_ : r.ended = false
  failed : ∃ e, (System.call (.nextName r.handle) w).1 = .error e ∧
    err = .ofIo "read_dir_entry" path e
  ended : r' = { r with ended := true }

open Manifest in
/-- Where a list stands after a name could not be given, and before. -/
inductive ListCursor.Passes (path : String) (err : PathError) (w : σ) :
    ListCursor → ListCursor → Prop where
  /-- A line that was pending is no name, whatever is in the file after it. It is passed. -/
  | pending {h : Handle} {c c' : Cursor}
    (line : ∀ rest, answers path (c.ahead c.offset rest) =
      .error err :: answers path (c'.ahead c.offset rest)) :
    Passes path err w (.manifest h c) (.manifest h c')
  /-- With what the system gave of the file there is a line that is no name. It is passed. -/
  | read {h : Handle} {c c' : Cursor} {rest : Rest}
    (answered : Rest.ofAnswer (System.call (.readRest h c.offset) w).1 = rest)
    (line : answers path (c.ahead c.offset rest.bytes) =
      .error err :: answers path (c'.ahead c.offset rest.bytes)) :
    Passes path err w (.manifest h c) (.manifest h c')
  /-- The file could not be read on, and nothing of it is kept. Of what was read so far all lines
  are skipped that are ended, so what is lost is the start of one line. -/
  | lost {h : Handle} {c : Cursor} {bytes : Bytes} {e : IoError}
    (answered : Rest.ofAnswer (System.call (.readRest h c.offset) w).1 = ⟨bytes, some e⟩)
    (reported : err = .ofIo "read_dir_entry" path e)
    (skipped : ((c.pending ++ bytes).splitOn newline).dropLast.filterMap (answer? path) = []) :
    Passes path err w (.manifest h c) (.manifest h ⟨[], c.offset + bytes.length⟩)
  | dir {r r' : DirReader} (breaks : r.Breaks path err w r') : Passes path err w (.dir r) (.dir r')

/-- What a driver that looked for a name becomes, if there is none that it could give. -/
inductive AnyDriver.Passes (err : PathError) (w : σ) : AnyDriver → AnyDriver → Prop where
  | posix {d : Posix} {r r' : DirReader} (held : d.dir? = some r)
    (breaks : r.Breaks d.entry.path err w r') :
    Passes err w (.posix d) (.posix { d with dir? := some r' })
  | list {d : Listing} {c c' : ListCursor} (held : d.cursor? = some c)
    (passes : c.Passes d.entry.path err w c') :
    Passes err w (.list d) (.list { d with cursor? := some c' })

namespace AnyDriver

end AnyDriver

end TreeHaul
