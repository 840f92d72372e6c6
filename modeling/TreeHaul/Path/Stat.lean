import TreeHaul.Path.Instant

/-!
What is known of a file: the system's metadata, and the record made of it.

The kind of a file is read off the format bits of its mode.
-/

namespace TreeHaul.Path

namespace Mode

/-- The bits of a mode that say what a file is. -/
def format : UInt32 := 0o170000
def regular : UInt32 := 0o100000
def directory : UInt32 := 0o040000
def symlink : UInt32 := 0o120000
def charDevice : UInt32 := 0o020000

end Mode

inductive FileKind where
  | regular | directory | symlink
  /-- A device, a pipe or a socket. -/
  | other
  deriving DecidableEq, Repr

namespace FileKind

def ofMode (mode : UInt32) : FileKind :=
  if mode &&& Mode.format = Mode.regular then regular
  else if mode &&& Mode.format = Mode.directory then directory
  else if mode &&& Mode.format = Mode.symlink then symlink
  else other

def name : FileKind → String
  | regular => "Regular"
  | directory => "Directory"
  | symlink => "Symlink"
  | other => "Other"

def all : List FileKind := [regular, directory, symlink, other]

def ofName? (s : String) : Option FileKind := all.find? (·.name == s)

end FileKind

/-- What the system reports of a file. -/
structure Metadata where
  mode : UInt32
  size : UInt64
  atime : Stamp
  mtime : Stamp
  ctime : Stamp
  ino : UInt64
  dev : UInt64
  nlink : UInt64
  uid : UInt32
  gid : UInt32
  blocks : UInt64
  deriving DecidableEq, Repr

/-- The record of a file that an entry keeps. -/
structure Stat where
  kind : FileKind
  mode : UInt32
  size : UInt64
  atime : Instant
  mtime : Instant
  ctime : Instant
  ino : UInt64
  dev : UInt64
  nlink : UInt64
  uid : UInt32
  gid : UInt32
  blocks : UInt64
  deriving DecidableEq, Repr

namespace Stat

def ofMetadata (m : Metadata) : Stat where
  kind := .ofMode m.mode
  mode := m.mode
  size := m.size
  atime := .ofStamp m.atime
  mtime := .ofStamp m.mtime
  ctime := .ofStamp m.ctime
  ino := m.ino
  dev := m.dev
  nlink := m.nlink
  uid := m.uid
  gid := m.gid
  blocks := m.blocks

/-- The mode without its format bits. -/
def perm (s : Stat) : UInt32 := s.mode &&& ~~~Mode.format

def isFile (s : Stat) : Bool := s.kind == .regular

def isDir (s : Stat) : Bool := s.kind == .directory

def isSymlink (s : Stat) : Bool := s.kind == .symlink

/-- The same file shown as a directory. -/
def asDirectory (s : Stat) : Stat :=
  { s with kind := .directory, mode := (s.mode &&& ~~~Mode.format) ||| Mode.directory }

/-- Names one object of the system: equal device and equal number. -/
def sameObject (s t : Stat) : Bool := s.dev == t.dev && s.ino == t.ino

end Stat

end TreeHaul.Path
