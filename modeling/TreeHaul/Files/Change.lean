import TreeHaul.Files.Walk

/-!
What calls do to the file system: names added and removed, contents, owners, modes and times.

Each operation answers with the system's number of what went wrong, or with the file system
afterwards. The process may read and write everything, but gives nothing away.
-/

namespace TreeHaul.Files

open TreeHaul.Os TreeHaul.Path TreeHaul.Text

variable (fs : Files)

/-! ### New names -/

/-- The directory and the name of a new object. A slash after the name is for directories. -/
def vacancy (path : Bytes) (forDir : Bool) : Except Int (Number × Name) := do
  let p ← fs.place path
  match p.name? with
  | none => .error Errno.exist
  | some name =>
    match ← fs.lookup? p.dir name with
    | some _ => .error Errno.exist
    | none => if p.trailing && !forDir then .error Errno.noent else return (p.dir, name)

def mkdir (path : Bytes) (mode : UInt32) : Except Int Files := do
  let (dir, name) ← fs.vacancy path true
  return (fs.addInode dir name (.dir dir []) (mode &&& 0o1777 &&& ~~~fs.umask)).2

def symlink (target path : Bytes) : Except Int Files := do
  checkPath target
  let (dir, name) ← fs.vacancy path false
  return (fs.addInode dir name (.link target) 0o777).2

/-- Gives an object that is no directory one more name. -/
def hardLink (existing path : Bytes) : Except Int Files := do
  let found ← fs.find existing false
  let (dir, name) ← fs.vacancy path false
  if fs.isDir found.inode then .error Errno.perm
  else
    return (fs.updateInode found.inode fun n => { n with links := n.links + 1 }).editNames dir
      (· ++ [(name, found.inode)])

/-! ### Names taken away -/

/-- The directory, the name and the object that a path without a dot at its end names. -/
def occupied (path : Bytes) (dots : Place → Int) : Except Int (Place × Name × Number) := do
  let p ← fs.place path
  match p.name? with
  | none => .error (dots p)
  | some name =>
    match ← fs.lookup? p.dir name with
    | none => .error Errno.noent
    | some i => return (p, name, i)

def eraseName (dir : Number) (name : Name) : Files :=
  fs.editNames dir (·.filter (·.1 != name))

def unlink (path : Bytes) : Except Int Files := do
  let (p, name, i) ← fs.occupied path fun _ => Errno.isdir
  if fs.isDir i then .error Errno.isdir
  else if p.trailing then .error Errno.notdir
  else return (fs.eraseName p.dir name).updateInode i fun n => { n with links := n.links - 1 }

def rmdir (path : Bytes) : Except Int Files := do
  let dots (p : Place) : Int := if p.dots = p.dir then Errno.inval else Errno.notempty
  let (p, name, i) ← fs.occupied path dots
  match fs.dir? i with
  | none => .error Errno.notdir
  | some (_, []) => return fs.eraseName p.dir name
  | some (_, _ :: _) => .error Errno.notempty

/-- Whether `i` is the directory `j` or one that it lies in, at most so many levels up. -/
def encloses (i : Number) : Nat → Number → Bool
  | 0, _ => false
  | levels + 1, j =>
    i == j ||
      match fs.dir? j with
      | some (parent, _) => parent != j && encloses i levels parent
      | none => false

/-- Puts an object that has a name under a new one, which is free or gives up its own object. -/
def move (i : Number) (dir : Number) (name : Name) (newDir : Number) (newName : Name) : Files :=
  let fs := (fs.eraseName dir name).eraseName newDir newName
  let fs := fs.editNames newDir (· ++ [(newName, i)])
  match fs.dir? i with
  | some (_, names) => fs.updateInode i fun n => { n with content := .dir newDir names }
  | none => fs

/-- Moves an object to another name, in place of what is there. Nothing goes below itself, and
only a directory may be asked for with a slash at the end. -/
def rename (path newPath : Bytes) : Except Int Files := do
  let p ← fs.place path
  let q ← fs.place newPath
  match p.name?, q.name? with
  | some name, some newName =>
    match ← fs.lookup? p.dir name with
    | none => .error Errno.noent
    | some i =>
      let encloses (i j : Number) : Bool := fs.encloses i fs.inodes.size j
      let j? ← fs.lookup? q.dir newName
      if !fs.isDir i && (p.trailing || q.trailing) then .error Errno.notdir
      else if encloses i q.dir then .error Errno.inval
      else
        match j? with
        | none => return fs.move i p.dir name q.dir newName
        | some j =>
          if encloses j p.dir then .error Errno.notempty
          else if i = j then return fs
          else
            match fs.isDir i, fs.dir? j with
            | true, none => .error Errno.notdir
            | false, some _ => .error Errno.isdir
            | true, some (_, _ :: _) => .error Errno.notempty
            | _, _ =>
              let fs := fs.updateInode j fun n => { n with links := n.links - 1 }
              return fs.move i p.dir name q.dir newName
  | _, _ => .error Errno.busy

/-! ### Opening, reading and writing -/

/-- The access that a set of flags asks for, and whether the flags agree with it. -/
def checkFlags (f : OpenFlags) : Except IoError Unit :=
  let creates := f.create || f.truncate || f.exclusive
  if !f.read && !f.write && !f.append then
    .error (if creates then .createWithoutWrite else .noAccessMode)
  else if !f.write && !f.append && creates then .error .createWithoutWrite
  else if f.append && f.truncate && !f.exclusive then .error .createWithoutWrite
  else .ok ()

/-- What an opening path leads to when a file may be created. -/
inductive Target where
  | existing (i : Number)
  | missing (dir : Number) (name : Name)

/-- Follows links in last place, except when the file has to be new. -/
def creationTarget (exclusive : Bool) : Nat → Nat → Number → Steps → Except Int Target
  | 0, _, _, _ => .error Errno.loop
  | rounds + 1, budget, start, s => do
    let p ← fs.placeFrom budget start s
    match p.name? with
    | none => return .existing p.dots
    | some name =>
      if p.trailing then .error Errno.isdir
      else
        match ← fs.lookup? p.dir name with
        | none => return .missing p.dir name
        | some i =>
          match fs.target? i, exclusive with
          | some target, false =>
            match p.budget with
            | 0 => .error Errno.loop
            | budget + 1 =>
              creationTarget exclusive rounds budget p.dir (Steps.ofBytes target)
          | _, _ => return .existing i

/-- A new handle on an object. -/
def openHandle (i : Number) (f : OpenFlags) (names? : Option (List Name)) : Handle × Files :=
  let o : Opened := ⟨i, f.read, f.write || f.append, f.append, names?⟩
  (fs.nextHandle,
    { fs with opened := (fs.nextHandle, o) :: fs.opened, nextHandle := fs.nextHandle + 1 })

/-- Empties a file. -/
def truncate (i : Number) : Files :=
  match fs.inode? i with
  | some { content := .file _, .. } => fs.setContent i (.file .empty)
  | _ => fs

def openFile (path : Bytes) (f : OpenFlags) (mode : UInt32) : Except Int (Handle × Files) := do
  checkPath path
  if f.create || f.exclusive then
    match ← fs.creationTarget f.exclusive (linkMax + 1) linkMax fs.cwd (Steps.ofBytes path) with
    | .missing dir name =>
      let (i, fs) := fs.addInode dir name (.file .empty) (mode &&& 0o7777 &&& ~~~fs.umask)
      return fs.openHandle i f none
    | .existing i =>
      if f.exclusive then .error Errno.exist
      else if fs.isDir i then .error Errno.isdir
      else return (if f.truncate then fs.truncate i else fs).openHandle i f none
  else
    let found ← fs.find path true
    if fs.isDir found.inode && (f.write || f.append) then .error Errno.isdir
    else return (if f.truncate then fs.truncate found.inode else fs).openHandle found.inode f none

def openDir (path : Bytes) : Except Int (Handle × Files) := do
  let found ← fs.find path true
  if fs.isDir found.inode then return fs.openHandle found.inode .readOnly none
  else .error Errno.notdir

def closeHandle (h : Handle) : Files := { fs with opened := fs.opened.filter (·.1 != h) }

/-- What a handle is open on. -/
def opened? (h : Handle) : Except Int Opened :=
  match fs.opened.lookup h with
  | some o => .ok o
  | none => .error Errno.badf

/-- A range that a handle can be asked for. Its start is looked at first, the handle next and its
end last. -/
def checkRange (allowed : Bool) (offset : UInt64) (len : Nat) : Except Int Unit :=
  if offset.toNat > fileMax then .error Errno.inval
  else if !allowed then .error Errno.badf
  else if offset.toNat + len > fileMax then .error Errno.inval
  else .ok ()

def readAt (h : Handle) (len : Nat) (offset : UInt64) : Except Int Bytes := do
  let o ← fs.opened? h
  checkRange o.readable offset len
  match fs.inode? o.inode with
  | some { content := .file data, .. } => return data.read offset.toNat len
  | some { content := .dir .., .. } => .error Errno.isdir
  | _ => return []

def readRest (h : Handle) (offset : Nat) : Except Int Bytes := do
  let o ← fs.opened? h
  match fs.inode? o.inode with
  | some { content := .file data, .. } => return data.rest offset
  | some { content := .dir .., .. } => .error Errno.isdir
  | _ => return []

def writeAt (h : Handle) (data : Bytes) (offset : UInt64) : Except Int (Nat × Files) := do
  let o ← fs.opened? h
  checkRange o.writable offset data.length
  match fs.inode? o.inode with
  | some { content := .file old, .. } =>
    let offset := if o.append then old.size else offset.toNat
    if data.isEmpty then return (0, fs)
    else if offset ≥ fileMax then .error Errno.fbig
    else
      let data := data.take (fileMax - offset)
      return (data.length, fs.setContent o.inode (.file (old.write offset data)))
  | _ => return (data.length, fs)

/-- Names in the order of their bytes. -/
def sortNames (names : List Name) : List Name :=
  names.mergeSort fun a b => !(b.map UInt8.toNat < a.map UInt8.toNat)

/-- The next name of an open directory. They are taken from it all at once. -/
def nextName (h : Handle) : Except Int (Option Name × Files) := do
  let o ← fs.opened? h
  let names := match o.names?, fs.dir? o.inode with
    | some names, _ => names
    | none, some (_, names) => sortNames (names.map (·.1))
    | none, none => []
  let set (o : Opened) : Files :=
    { fs with opened := (h, o) :: fs.opened.filter (·.1 != h) }
  match names with
  | [] => return (none, set { o with names? := some [] })
  | name :: rest => return (some name, set { o with names? := some rest })

/-! ### Owners, modes and times -/

/-- Bits that let a program run as its owner or its group. -/
def setIdBits (perm : UInt32) : UInt32 :=
  0o4000 ||| (if perm &&& 0o010 != 0 then 0o2000 else 0)

/-- Sets owner and group, each of which can be left as it is by the greatest number. Nothing can
be given away. -/
def chown (path : Bytes) (uid gid : UInt32) : Except Int Files := do
  let found ← fs.find path false
  let same : UInt32 := 0xFFFFFFFF
  if (uid != same && uid != 0) || (gid != same && gid != 0) then .error Errno.perm
  else
    return fs.updateInode found.inode fun n =>
      { n with
        uid := if uid = same then n.uid else uid
        gid := if gid = same then n.gid else gid
        perm := match n.content with
          | .dir .. => n.perm
          | _ => n.perm &&& ~~~setIdBits n.perm
        ctime := fs.now }

def chmod (path : Bytes) (mode : UInt32) : Except Int Files := do
  let found ← fs.find path true
  return fs.updateInode found.inode fun n => { n with perm := mode &&& 0o7777, ctime := fs.now }

def setTimes (path : Bytes) (accessed modified : Stamp) (follow : Bool) : Except Int Files := do
  let found ← fs.find path follow
  return fs.updateInode found.inode fun n =>
    { n with atime := accessed, mtime := modified, ctime := fs.now }

/-! ### Questions -/

def statPath (path : Bytes) (follow : Bool) : Except Int Metadata := do
  let found ← fs.find path follow
  match fs.inode? found.inode with
  | some n => return fs.metadata found.inode n
  | none => .error Errno.noent

def readLink (path : Bytes) : Except Int Bytes := do
  let found ← fs.find path false
  match fs.target? found.inode with
  | some target => return target
  | none => .error Errno.inval

/-- Everything may be read and written; what is no directory is run only with a bit for it. -/
def access (path : Bytes) (mode : AccessMode) (follow : Bool) : Except Int Unit := do
  let found ← fs.find path follow
  match fs.inode? found.inode with
  | none => .error Errno.noent
  | some { content := .dir .., .. } => return ()
  | some n =>
    if mode.contains .execute && n.perm &&& 0o111 == 0 then .error Errno.access else return ()

end TreeHaul.Files
