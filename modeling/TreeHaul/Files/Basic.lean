import TreeHaul.Files.Extents
import TreeHaul.Os.Syscall

/-!
A file system in memory: numbered objects, of which directories name others, and what is open.

Object `0` is the root. An object that no directory names any more stays, for those who still hold
it open.
-/

namespace TreeHaul

open TreeHaul.Os TreeHaul.Path TreeHaul.Text

namespace Files

abbrev Name := Bytes

abbrev Number := Nat

/-- What an object is. -/
inductive Content where
  | file (data : Extents)
  | dir (parent : Number) (names : List (Name × Number))
  | link (target : Bytes)
  /-- Takes every write and has nothing to read. -/
  | sink

/-- An object. -/
structure Inode where
  content : Content
  /-- The mode without its format bits. -/
  perm : UInt32
  uid : UInt32
  gid : UInt32
  atime : Stamp
  mtime : Stamp
  ctime : Stamp
  links : Nat

/-- Something open. Of a directory, the names are taken when the first one is asked for. -/
structure Opened where
  inode : Number
  readable : Bool
  writable : Bool
  append : Bool
  names? : Option (List Name)

end Files

/-- The state of a file system and of the one process that uses it. -/
structure Files where
  inodes : Array Files.Inode
  opened : List (Handle × Files.Opened)
  nextHandle : Handle
  /-- Where paths start that do not start at the root. -/
  cwd : Files.Number
  /-- Permissions that a new object does not get. -/
  umask : UInt32
  now : Stamp

namespace Files

def root : Number := 0

def slash : UInt8 := 47

/-- The name of a directory in itself. -/
def dot : Name := [46]

/-- The name of the parent of a directory. -/
def dotDot : Name := [46, 46]

/-- The longest name. -/
def nameMax : Nat := 255

/-- A path is shorter than this. -/
def pathMax : Nat := 4096

/-- How many links one look-up follows. -/
def linkMax : Nat := 40

/-- The greatest offset in a file. -/
def fileMax : Nat := 0x7FFFFFFFFFFFFFFF

variable (fs : Files)

def inode? (i : Number) : Option Inode := fs.inodes[i]?

/-- The parent and the names of a directory. -/
def dir? (i : Number) : Option (Number × List (Name × Number)) :=
  match fs.inode? i with
  | some { content := .dir parent names, .. } => some (parent, names)
  | _ => none

/-- What a link points to. -/
def target? (i : Number) : Option Bytes :=
  match fs.inode? i with
  | some { content := .link target, .. } => some target
  | _ => none

def isDir (i : Number) : Bool := (fs.dir? i).isSome

def updateInode (i : Number) (f : Inode → Inode) : Files :=
  { fs with inodes := fs.inodes.modify i f }

def setContent (i : Number) (c : Content) : Files :=
  fs.updateInode i fun n => { n with content := c, mtime := fs.now, ctime := fs.now }

def editNames (i : Number) (f : List (Name × Number) → List (Name × Number)) : Files :=
  match fs.dir? i with
  | some (parent, names) => fs.setContent i (.dir parent (f names))
  | none => fs

/-- Adds an object under a new name of a directory. A directory that hands its group on does so
here, and to new directories also that trait. -/
def addInode (dir : Number) (name : Name) (content : Content) (perm : UInt32) : Number × Files :=
  let number := fs.inodes.size
  let setGid : UInt32 := 0o2000
  let (inherits, gid) :=
    match fs.inode? dir with
    | some n => (n.perm &&& setGid != 0, n.gid)
    | none => (false, 0)
  let isDir := match content with
    | .dir .. => true
    | _ => false
  let node : Inode := {
    content := content
    perm := if inherits && isDir then perm ||| setGid else perm
    uid := 0
    gid := if inherits then gid else 0
    atime := fs.now, mtime := fs.now, ctime := fs.now
    links := 1 }
  (number, { fs with inodes := fs.inodes.push node }.editNames dir (· ++ [(name, number)]))

/-- The bits of a mode that say what an object is. -/
def formatOf : Content → UInt32
  | .file _ => Mode.regular
  | .dir .. => Mode.directory
  | .link _ => Mode.symlink
  | .sink => Mode.charDevice

/-- The size that is reported of a directory. -/
def dirSize : Nat := 4096

def sizeOf : Content → Nat
  | .file data => data.size
  | .dir .. => dirSize
  | .link target => target.length
  | .sink => 0

/-- How many names an object has; a directory is also named by itself and by those in it. -/
def linksOf (n : Inode) : Nat :=
  match n.content with
  | .dir _ names => 2 + (names.filter fun (_, i) => fs.isDir i).length
  | _ => n.links

def metadata (i : Number) (n : Inode) : Metadata where
  mode := formatOf n.content ||| n.perm
  size := (sizeOf n.content).toUInt64
  atime := n.atime
  mtime := n.mtime
  ctime := n.ctime
  ino := (i + 1).toUInt64
  dev := 1
  nlink := (fs.linksOf n).toUInt64
  uid := n.uid
  gid := n.gid
  blocks := ((sizeOf n.content + 511) / 512).toUInt64

/-- A file system with the null device and a directory to work in, which is `steps` below the
root. -/
def fresh (now : Stamp) (steps : List Name) : Files :=
  let node (c : Content) (perm : UInt32) : Inode := ⟨c, perm, 0, 0, now, now, now, 1⟩
  let fs : Files := ⟨#[node (.dir root []) 0o755], [], 3, root, 0o022, now⟩
  let (dev, fs) := fs.addInode root (bytesOf "dev") (.dir root []) 0o755
  let (_, fs) := fs.addInode dev (bytesOf "null") .sink 0o666
  let (at_, fs) := steps.foldl
    (fun (at_, fs) name => fs.addInode at_ name (.dir at_ []) 0o755) (root, fs)
  { fs with cwd := at_ }

end Files

end TreeHaul
