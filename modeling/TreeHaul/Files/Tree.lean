import TreeHaul.Files.Change

/-!
A tree laid out from data, and a tree written down: the steps that set the scene for a run and the
record of what is there after it.
-/

namespace TreeHaul.Files

open TreeHaul.Os TreeHaul.Path TreeHaul.Text

variable (fs : Files)

/-- Writes a file, new or in place of its old content. -/
def writeFile (path data : Bytes) : Except Int Files := do
  let (h, fs) ← fs.openFile path { OpenFlags.createTruncate with read := false } 0o666
  let (_, fs) ← fs.writeAt h data 0
  return fs.closeHandle h

/-- Writes a file and sets its mode. -/
def putFile (path data : Bytes) (mode : UInt32) : Except Int Files := do
  let fs ← fs.writeFile path data
  fs.chmod path mode

/-- Makes a directory and sets its mode. -/
def putDir (path : Bytes) (mode : UInt32) : Except Int Files := do
  let fs ← fs.mkdir path 0o777
  fs.chmod path mode

/-- One line of a tree, under the names that lead to it from the top. -/
inductive TreeLine where
  | dir (names : List Bytes) (perm : UInt32)
  | link (names : List Bytes) (target : Bytes)
  | file (names : List Bytes) (perm : UInt32) (data : Extents)
  | other (names : List Bytes) (perm : UInt32)

/-- The objects below a directory, depth first, names in the order of their bytes. -/
def treeBelow : Nat → Number → List Bytes → List TreeLine
  | 0, _, _ => []
  | depth + 1, i, above =>
    match fs.dir? i with
    | none => []
    | some (_, names) =>
      (sortNames (names.map (·.1))).flatMap fun name =>
        let here := above ++ [name]
        match names.lookup name with
        | none => []
        | some j =>
          match fs.inode? j with
          | none => []
          | some n =>
            match n.content with
            | .dir .. => .dir here n.perm :: treeBelow depth j here
            | .link target => [.link here target]
            | .file data => [.file here n.perm data]
            | .sink => [.other here n.perm]

/-- The tree below the working directory. -/
def tree : List TreeLine := fs.treeBelow fs.inodes.size fs.cwd []

end TreeHaul.Files
