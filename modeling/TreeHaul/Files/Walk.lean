import TreeHaul.Files.Basic

/-!
From paths to objects.

A walk takes one name after the other from a directory. It stops at a link, goes on from where the
link points with what is left, and gives up after forty links. The last name can also be left
for the caller, who may want to add or remove it.
-/

namespace TreeHaul.Files

open TreeHaul.Os TreeHaul.Text

/-- A path taken apart. -/
structure Steps where
  absolute : Bool
  names : List Name
  /-- The path ends with a slash after a name, so it asks for a directory. -/
  trailing : Bool

/-- The names between slashes, the empty ones left out. -/
def namesOf : Bytes → List Name
  | [] => []
  | b :: bs =>
    if b = slash then namesOf bs
    else
      match bs, namesOf bs with
      | c :: _, name :: names => if c = slash then [b] :: name :: names else (b :: name) :: names
      | _, names => [b] :: names

namespace Steps

def ofBytes (path : Bytes) : Steps :=
  let names := namesOf path
  ⟨path.head? == some slash, names, path.getLast? == some slash && !names.isEmpty⟩

/-- The names to walk. A slash at the end asks for the directory itself. -/
def full (s : Steps) : List Name := if s.trailing then s.names ++ [dot] else s.names

end Steps

variable (fs : Files)

/-- Where a path starts that is met in `dir`. -/
def startOf (dir : Number) (s : Steps) : Number := if s.absolute then root else dir

/-- Where a walk stops: at an object, with the directory and name that led to it if the last step
was one into a name; at an error; or at a link, with the names that come after it. -/
inductive Stop where
  | arrived (i : Number) (via? : Option (Number × Name))
  | failed (errno : Int)
  | link (dir : Number) (target : Bytes) (rest : List Name)

/-- One step into a directory that has the object of a name. -/
def lookup? (dir : Number) (name : Name) : Except Int (Option Number) :=
  match fs.dir? dir with
  | none => .error Errno.notdir
  | some (parent, names) =>
    if name = dot then .ok (some dir)
    else if name = dotDot then .ok (some parent)
    else if name.length > nameMax then .error Errno.nametoolong
    else .ok (names.lookup name)

/-- Walks up to the first link that has to be followed; a link in last place only if `follow`. -/
def segment (follow : Bool) (at_ : Number) (via? : Option (Number × Name)) : List Name → Stop
  | [] => .arrived at_ via?
  | name :: rest =>
    match fs.lookup? at_ name with
    | .error e => .failed e
    | .ok none => .failed Errno.noent
    | .ok (some i) =>
      match fs.target? i with
      | some target =>
        if follow || !rest.isEmpty then .link at_ target rest
        else segment follow i (some (at_, name)) rest
      | none =>
        segment follow i (if name = dot || name = dotDot then none else some (at_, name)) rest

/-- An object that was found, how it was reached, and how many links may still be followed. -/
structure Found where
  inode : Number
  via? : Option (Number × Name)
  budget : Nat

/-- Walks `names` from an object, through `budget` links at most. -/
def walk (follow : Bool) : Nat → Number → List Name → Except Int Found
  | budget, at_, names =>
    match fs.segment follow at_ none names with
    | .arrived i via? => .ok ⟨i, via?, budget⟩
    | .failed e => .error e
    | .link dir target rest =>
      match budget with
      | 0 => .error Errno.loop
      | budget + 1 =>
        let s := Steps.ofBytes target
        walk follow budget (startOf dir s) (s.full ++ rest)

/-- A path that can be looked up at all. -/
def checkPath (path : Bytes) : Except Int Unit :=
  if path.isEmpty then .error Errno.noent
  else if path.length ≥ pathMax then .error Errno.nametoolong
  else .ok ()

/-- The object of a path. -/
def find (path : Bytes) (follow : Bool) : Except Int Found := do
  checkPath path
  let s := Steps.ofBytes path
  fs.walk follow linkMax (startOf fs.cwd s) s.full

/-- The last name of a path, left for the caller. -/
structure Place where
  dir : Number
  /-- None if the path ends at the root, at a directory's own name or at that of its parent. -/
  name? : Option Name
  /-- The object that a path without a name of its own ends at. -/
  dots : Number
  trailing : Bool
  budget : Nat

/-- Walks all but the last name of a path that is met in `dir`. -/
def placeFrom (budget : Nat) (dir : Number) (s : Steps) : Except Int Place := do
  let start := startOf dir s
  match s.names.getLast? with
  | none => return ⟨start, none, start, s.trailing, budget⟩
  | some name =>
    let found ← fs.walk true budget start s.names.dropLast
    match fs.dir? found.inode with
    | none => .error Errno.notdir
    | some (parent, _) =>
      if name = dot then return ⟨found.inode, none, found.inode, s.trailing, found.budget⟩
      else if name = dotDot then return ⟨found.inode, none, parent, s.trailing, found.budget⟩
      else return ⟨found.inode, some name, found.inode, s.trailing, found.budget⟩

/-- The place of a path. -/
def place (path : Bytes) : Except Int Place := do
  checkPath path
  fs.placeFrom linkMax fs.cwd (Steps.ofBytes path)

/-- The names from the root to a directory, with as many steps up as there are objects. -/
def climb : Nat → Number → List Name
  | 0, _ => []
  | fuel + 1, i =>
    if i = root then []
    else
      match fs.dir? i with
      | none => []
      | some (parent, _) =>
        let names := match fs.dir? parent with
          | some (_, names) => names
          | none => []
        match names.find? (·.2 == i) with
        | some (name, _) => climb fuel parent ++ [name]
        | none => []

/-- The path of names from the root. -/
def joinNames : List Name → Bytes
  | [] => [slash]
  | names => names.flatMap (slash :: ·)

/-- The path of an object that a walk found, without links and dots. -/
def absolutePath (f : Found) : Bytes :=
  if fs.isDir f.inode then joinNames (fs.climb fs.inodes.size f.inode)
  else
    match f.via? with
    | some (dir, name) => joinNames (fs.climb fs.inodes.size dir ++ [name])
    | none => [slash]

/-- Resolves a path of any length to one without links and dots. -/
def canonicalize (path : Bytes) : Except Int Bytes :=
  if path.isEmpty then .error Errno.noent
  else do
    let s := Steps.ofBytes path
    let found ← fs.walk true linkMax (startOf fs.cwd s) s.full
    return fs.absolutePath found

end TreeHaul.Files
