import TreeHaul.Os.IoError
import TreeHaul.Path.Arguments
import TreeHaul.Text.Bytes

/-!
The operating system as the drivers see it: the calls they issue, and a handler that answers them.

A call says in its type what it answers with. A handler is any function from calls to answers
that threads a world through, so a statement over all handlers is one over all outcomes.
-/

namespace TreeHaul.Os

open TreeHaul.Path TreeHaul.Text

/-- The system's name for something open. -/
abbrev Handle := Nat

/-- What a file has from an offset on, as far as it can be read. -/
structure Rest where
  bytes : Bytes
  /-- What ended the reading before the end of the file. -/
  failure? : Option IoError
  deriving DecidableEq, Repr

/-- A reading that fails at once has come to nothing. -/
def Rest.ofAnswer : Except IoError Rest → Rest
  | .ok rest => rest
  | .error e => ⟨[], some e⟩

/-- One call to the system. -/
inductive Syscall : Type → Type where
  /-- Metadata of what is at a path, through a link in last place or of the link itself. -/
  | stat (path : String) (follow : Bool) : Syscall Metadata
  | access (path : String) (mode : AccessMode) : Syscall Unit
  | accessAt (path : String) (mode : AccessMode) (flags : AccessFlags) : Syscall Unit
  | open_ (path : String) (flags : OpenFlags) (mode : UInt32) : Syscall Handle
  /-- Up to `len` bytes from an offset. -/
  | readAt (file : Handle) (len : Nat) (offset : UInt64) : Syscall Bytes
  /-- Reads on from an offset, to the end or until that fails. -/
  | readRest (file : Handle) (offset : Nat) : Syscall Rest
  /-- Writes at an offset, and answers how many bytes were taken. -/
  | writeAt (file : Handle) (data : Bytes) (offset : UInt64) : Syscall Nat
  | openDir (path : String) : Syscall Handle
  /-- The next name of an open directory, or nothing at its end. The directory itself and its
  parent, which are listed as dots, are passed over. -/
  | nextName (dir : Handle) : Syscall (Option Bytes)
  | close (handle : Handle) : Syscall Unit
  | mkdir (path : String) (mode : UInt32) : Syscall Unit
  | unlink (path : String) : Syscall Unit
  | symlink (target path : String) : Syscall Unit
  | readLink (path : String) : Syscall Bytes
  /-- Sets the owner of the object itself; the greatest number leaves one as it is. -/
  | chown (path : String) (uid gid : UInt32) : Syscall Unit
  | chmod (path : String) (mode : UInt32) : Syscall Unit
  | setTimes (path : String) (accessed modified : Stamp) (follow : Bool) : Syscall Unit
  /-- The absolute path without links, dots or doubled slashes. -/
  | canonicalize (path : String) : Syscall Bytes

namespace Syscall

/-- The call may change what is stored. Opening does if its flags create or write. -/
def mutates {α : Type} : Syscall α → Bool
  | open_ _ flags _ => flags.mutates || flags.write || flags.append
  | writeAt .. | mkdir .. | unlink .. | symlink .. | chown .. | chmod .. | setTimes .. => true
  | _ => false

end Syscall

end TreeHaul.Os

universe u

namespace TreeHaul

open TreeHaul.Os

/-- A handler of calls over worlds of type `σ`. -/
class System (σ : Type u) where
  call : {α : Type} → Syscall α → σ → Except IoError α × σ

/-- A world together with the calls that were issued in it, the latest first. -/
structure Traced (σ : Type u) where
  world : σ
  calls : List (Sigma Syscall)

instance {σ : Type u} [System σ] : System (Traced σ) where
  call c t :=
    let (r, world) := System.call c t.world
    (r, ⟨world, ⟨_, c⟩ :: t.calls⟩)

end TreeHaul
