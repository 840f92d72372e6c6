/-!
The storage behind a path, chosen by how the path begins.
-/

namespace TreeHaul.Path

/-- Where the object of a path lives. -/
inductive Backend where
  /-- The plain file system. -/
  | posix
  /-- A manifest or a directory, presented as a directory of names. -/
  | list
  /-- The tree below the null device, where writes vanish. -/
  | null
  deriving DecidableEq, Repr

namespace Backend

def all : List Backend := [posix, list, null]

def name : Backend → String
  | posix => "posix"
  | list => "list"
  | null => "null"

/-- The name with a capital. -/
def title : Backend → String
  | posix => "Posix"
  | list => "List"
  | null => "Null"

/-- What every list path begins with. -/
def listTag : String := "list://"

/-- The root of the null tree. -/
def nullDevice : String := "/dev/null"

/-- The part of a path that is taken off before the system sees it. -/
def tag : Backend → String
  | list => listTag
  | posix | null => ""

/-- What is left of a path after a given beginning. -/
def rest? (beginning path : String) : Option (List Char) :=
  beginning.toList.isPrefixOf? path.toList

/-- The backend that a path asks for: the null tree is the device itself and what has a slash
right after it. -/
def detect (path : String) : Backend :=
  match rest? listTag path with
  | some _ => list
  | none =>
    match rest? nullDevice path with
    | some [] => null
    | some ('/' :: _) => null
    | _ => posix

/-- The backend of this exact name. -/
def ofName? (s : String) : Option Backend := all.find? (·.name == s)

/-- The backend of this name, in letters of either case. -/
def ofNameAnyCase? (s : String) : Option Backend := all.find? (·.name == s.map Char.toLower)

end Backend

end TreeHaul.Path
