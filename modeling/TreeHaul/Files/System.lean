import TreeHaul.Files.Change

/-!
The file system in memory as a handler of the drivers' calls.

A path with a NUL in it never reaches the system: most calls find it out themselves, and the probes
and the setting of times answer as the system would.
-/

namespace TreeHaul.Files

open TreeHaul.Os TreeHaul.Path TreeHaul.Text

variable {α : Type}

/-- An operation that changes nothing. -/
def asks (r : Except Int α) (fs : Files) : Except IoError α × Files := (r.mapError .raw, fs)

/-- An operation whose only answer is the file system afterwards. -/
def changes (r : Except Int Files) (fs : Files) : Except IoError Unit × Files :=
  match r with
  | .ok fs => (.ok (), fs)
  | .error e => (.error (.raw e), fs)

/-- An operation with an answer and the file system afterwards. -/
def yields (r : Except Int (α × Files)) (fs : Files) : Except IoError α × Files :=
  match r with
  | .ok (a, fs) => (.ok a, fs)
  | .error e => (.error (.raw e), fs)

def hasNul (path : String) : Bool := path.toList.any (· == '\x00')

/-- Does something with the bytes of a path, unless there is a NUL among them. -/
def withPath (path : String) (nul : IoError) (k : Bytes → Except IoError α × Files) (fs : Files) :
    Except IoError α × Files :=
  if hasNul path then (.error nul, fs) else k (bytesOf path)

def call : {α : Type} → Syscall α → Files → Except IoError α × Files
  | _, .stat path follow, fs =>
    withPath path .nulInPath (fun p => asks (fs.statPath p follow) fs) fs
  | _, .access path mode, fs =>
    withPath path (.raw Errno.inval) (fun p => asks (fs.access p mode true) fs) fs
  | _, .accessAt path mode flags, fs =>
    withPath path (.raw Errno.inval)
      (fun p => asks (fs.access p mode (!flags.contains .noFollow)) fs) fs
  | _, .open_ path flags mode, fs =>
    withPath path .nulInPath (fun p =>
      match checkFlags flags with
      | .error e => (.error e, fs)
      | .ok () => yields (fs.openFile p flags mode) fs) fs
  | _, .readAt h len offset, fs => asks (fs.readAt h len offset) fs
  | _, .readRest h offset, fs => asks ((fs.readRest h offset).map (⟨·, none⟩)) fs
  | _, .writeAt h data offset, fs => yields (fs.writeAt h data offset) fs
  | _, .openDir path, fs => withPath path .nulInPath (fun p => yields (fs.openDir p) fs) fs
  | _, .nextName h, fs => yields (fs.nextName h) fs
  | _, .close h, fs => (.ok (), fs.closeHandle h)
  | _, .mkdir path mode, fs =>
    withPath path .nulInPath (fun p => changes (fs.mkdir p mode) fs) fs
  | _, .unlink path, fs => withPath path .nulInPath (fun p => changes (fs.unlink p) fs) fs
  | _, .symlink target path, fs =>
    withPath target .nulInPath (fun t =>
      withPath path .nulInPath (fun p => changes (fs.symlink t p) fs) fs) fs
  | _, .readLink path, fs => withPath path .nulInPath (fun p => asks (fs.readLink p) fs) fs
  | _, .chown path uid gid, fs =>
    withPath path .nulInPath (fun p => changes (fs.chown p uid gid) fs) fs
  | _, .chmod path mode, fs =>
    withPath path .nulInPath (fun p => changes (fs.chmod p mode) fs) fs
  | _, .setTimes path accessed modified follow, fs =>
    withPath path (.raw Errno.inval)
      (fun p => changes (fs.setTimes p accessed modified follow) fs) fs
  | _, .canonicalize path, fs =>
    withPath path .nulInPath (fun p => asks (fs.canonicalize p) fs) fs

instance : System Files where
  call := Files.call

end TreeHaul.Files
