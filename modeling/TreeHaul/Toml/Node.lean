/-!
The contents of a TOML document: values, tables, and arrays of tables.

A table remembers how it came about, which decides what may still be added to it.
-/

namespace TreeHaul.Toml

/-- How a table came about. -/
inductive Origin where
  /-- By a header of its own, or as the root. -/
  | header
  /-- As a step on the way to a header. -/
  | implied
  /-- By a key with dots. -/
  | dotted
  /-- As a value in braces, which is closed. -/
  | inline
  deriving DecidableEq, Repr

inductive Node where
  | string (s : String)
  | integer (n : Int)
  | decimal
  | boolean (b : Bool)
  | moment
  | array (items : List Node)
  | table (origin : Origin) (items : List (String × Node))
  /-- An array of tables, each begun by a header, latest first; the latest can still grow. -/
  | tables (latest : List (String × Node)) (earlier : List (List (String × Node)))

abbrev Items := List (String × Node)

namespace Items

/-- Puts a node in the place of a key. -/
def set (key : String) (n : Node) : Items → Items
  | [] => [(key, n)]
  | (k, m) :: rest => if k = key then (k, n) :: rest else (k, m) :: set key n rest

/-- Changes the table at the end of a path. Tables that are missing on the way come about with the
given origin; a key with dots must not pass through a table with a header. -/
def alter (missing : Origin) (f : Origin → Items → Option Items) :
    List String → Origin → Items → Option Items
  | [], origin, items => f origin items
  | key :: path, _, items =>
    match items.lookup key with
    | none =>
      (alter missing f path missing []).map fun child => items.set key (.table missing child)
    | some (.table .inline _) => none
    | some (.table origin child) =>
      if missing = .dotted && origin = .header then none
      else (alter missing f path origin child).map fun child => items.set key (.table origin child)
    | some (.tables latest earlier) =>
      (alter missing f path .header latest).map fun latest =>
        items.set key (.tables latest earlier)
    | some _ => none

/-- Adds a value under a key that is not there yet. A table reached by dots must have come about
by dots. -/
def addTo (byDots : Bool) (key : String) (n : Node) (origin : Origin) (items : Items) :
    Option Items :=
  if byDots != (origin == .dotted) then none
  else
    match items.lookup key with
    | some _ => none
    | none => some (items ++ [(key, n)])

/-- Adds the value of a key with any number of dots. -/
def addKey (path : List String) (n : Node) (origin : Origin) (items : Items) : Option Items :=
  match path.getLast? with
  | none => none
  | some key =>
    let above := path.dropLast
    items.alter .dotted (addTo (!above.isEmpty) key n) above origin

/-- Begins the table of a header. One that is only implied so far becomes a table of its own. -/
def addHeader (path : List String) (root : Items) : Option Items :=
  match path.getLast? with
  | none => none
  | some key =>
    root.alter .implied (fun _ items =>
      match items.lookup key with
      | none => some (items ++ [(key, .table .header [])])
      | some (.table .implied child) => some (items.set key (.table .header child))
      | some _ => none) path.dropLast .header

/-- Begins the next element of an array of tables. -/
def addElement (path : List String) (root : Items) : Option Items :=
  match path.getLast? with
  | none => none
  | some key =>
    root.alter .implied (fun _ items =>
      match items.lookup key with
      | none => some (items ++ [(key, .tables [] [])])
      | some (.tables latest earlier) => some (items.set key (.tables [] (latest :: earlier)))
      | some _ => none) path.dropLast .header

end Items

end TreeHaul.Toml
