import TreeHaul.Toml.Calendar
import TreeHaul.Toml.Node
import TreeHaul.Toml.Number

/-!
TOML documents: values, and the lines that put them into tables.

Nesting is bounded, so values are read by recursion on the depth that is left; within one level
the items of an array or of braces are read by recursion on a limit, which is never less than the
length of the text.
-/

namespace TreeHaul.Toml

/-- One less than this many arrays and braces may be nested, or parts joined in a key. -/
def depthLimit : Nat := 80

/-- A key: at most `limit` parts joined by dots, with blanks around each. -/
def keyParts? : Nat → Reader (List String)
  | 0, _ => none
  | limit + 1, s => do
    let (part, r) ← keyPart? (skipBlanks s)
    match skipBlanks r with
    | '.' :: r =>
      let (parts, r) ← keyParts? limit r
      return (part :: parts, r)
    | r => return ([part], r)

def key? : Reader (List String) := keyParts? (depthLimit - 1)

/-- The items of an array up to its end, after those that are read, latest first. A comma may stand
after the last one. -/
def arrayItems? (item : Reader Node) : Nat → List Node → Reader (List Node)
  | 0, _, _ => none
  | limit + 1, done, s => do
    match ← fill? false s with
    | ']' :: r => return (done.reverse, r)
    | s =>
      let (n, r) ← item s
      match ← fill? false r with
      | ',' :: r => arrayItems? item limit (n :: done) r
      | ']' :: r => return ((n :: done).reverse, r)
      | _ => none

/-- The pairs in braces up to the closing one, with no comma after the last. -/
def inlinePairs? (item : Reader Node) : Nat → Items → Reader Items
  | 0, _, _ => none
  | limit + 1, items, s => do
    let (path, r) ← key? s
    let (n, r) ← item (skipBlanks (← char? '=' r))
    let items ← items.addKey path n .inline
    match skipBlanks r with
    | ',' :: r => inlinePairs? item limit items r
    | '\x7d' :: r => return (items, r)
    | _ => none

/-- A value with at most `depth` levels of arrays and braces, of at most `limit` items each. -/
def value? (limit : Nat) : Nat → Reader Node
  | depth, s =>
    match s with
    | '"' :: _ => (quoted? s).map fun (cs, r) => (.string (String.ofList cs), r)
    | '\'' :: _ => (quoted? s).map fun (cs, r) => (.string (String.ofList cs), r)
    | '[' :: r =>
      match depth with
      | 0 => none
      | depth + 1 => do
        let (ns, r) ← arrayItems? (value? limit depth) limit [] r
        return (.array ns, r)
    | '\x7b' :: r =>
      match depth with
      | 0 => none
      | depth + 1 =>
        match skipBlanks r with
        | '\x7d' :: r => some (.table .inline [], r)
        | r => do
          let (items, r) ← inlinePairs? (value? limit depth) limit [] r
          return (.table .inline items, r)
    | 't' :: 'r' :: 'u' :: 'e' :: r => some (.boolean true, r)
    | 'f' :: 'a' :: 'l' :: 's' :: 'e' :: r => some (.boolean false, r)
    | s =>
      if startsDay s then (dayAndTime? s).map fun r => (.moment, r)
      else if startsTime s then (time? s).map fun r => (.moment, r)
      else
        (number? s).map fun (n, r) =>
          match n with
          | .integer n => (.integer n, r)
          | .decimal => (.decimal, r)

/-- What is read so far: the root, and the table that keys go into. -/
structure Progress where
  root : Items
  here : List String

namespace Progress

def start : Progress := ⟨[], []⟩

/-- Adds a pair to the table that was begun last. -/
def addPair (p : Progress) (path : List String) (n : Node) : Option Progress := do
  let root ← p.root.alter .implied (fun _ items => items.addKey path n .header) p.here .header
  return { p with root := root }

end Progress

/-- A header of one table, after its first bracket. -/
def tableHeader? (p : Progress) (s : List Char) : Option (Progress × List Char) := do
  let (path, r) ← key? s
  let r ← endLine? (← char? ']' r)
  return (⟨← p.root.addHeader path, path⟩, r)

/-- A header of an element of an array of tables, after its first two brackets. -/
def elementHeader? (p : Progress) (s : List Char) : Option (Progress × List Char) := do
  let (path, r) ← key? s
  let r ← char? ']' (← char? ']' r)
  let r ← endLine? r
  return (⟨← p.root.addElement path, path⟩, r)

def pair? (limit : Nat) (p : Progress) (s : List Char) : Option (Progress × List Char) := do
  let (path, r) ← key? s
  let (n, r) ← value? limit (depthLimit - 1) (skipBlanks (← char? '=' r))
  let r ← endLine? r
  return (← p.addPair path n, r)

/-- One line after another. Each line takes a character off the text and one off the limit. -/
def lines? : Nat → Progress → List Char → Option Progress
  | 0, _, _ => none
  | limit + 1, p, s =>
    match skipBlanks s with
    | [] => some p
    | '#' :: r => do lines? limit p (← endLine? ('#' :: r))
    | '\n' :: r => lines? limit p r
    | '\r' :: r => do lines? limit p (← newline? ('\r' :: r))
    | '[' :: '[' :: r => do
      let (p, r) ← elementHeader? p r
      lines? limit p r
    | '[' :: r => do
      let (p, r) ← tableHeader? p r
      lines? limit p r
    | s => do
      let (p, r) ← pair? (limit + 1) p s
      lines? limit p r

/-- The root table of a document. A mark of the byte order may stand in front of it. -/
def document? (text : String) : Option Items :=
  let s := match text.toList with
    | '\uFEFF' :: r => r
    | s => s
  (lines? (s.length + 1) .start s).map Progress.root

end TreeHaul.Toml
