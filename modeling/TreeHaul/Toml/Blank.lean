/-!
What stands between the words of a TOML document: blanks, comments and ends of lines.

A reader takes the characters that are left and answers with what it read and the characters after
it, or with nothing if the text is not what it reads.
-/

namespace TreeHaul.Toml

/-- Reads something from the front of a text. -/
abbrev Reader (α : Type) := List Char → Option (α × List Char)

def isBlank (c : Char) : Bool := c == ' ' || c == '\t'

/-- A character that may stand in a comment or a quoted text: no control but the tab. -/
def isPlain (c : Char) : Bool := c == '\t' || (' ' ≤ c && c != '\x7f')

def skipBlanks (s : List Char) : List Char := s.dropWhile isBlank

/-- Skips the end of a line. -/
def newline? : List Char → Option (List Char)
  | '\n' :: r => some r
  | '\r' :: '\n' :: r => some r
  | _ => none

/-- Skips a comment up to the end of its line. -/
def skipComment : List Char → List Char
  | '#' :: r => r.dropWhile isPlain
  | s => s

/-- Skips the rest of a line after its last word, and the end of the line or of the text. -/
def endLine? (s : List Char) : Option (List Char) :=
  match skipComment (skipBlanks s) with
  | [] => some []
  | s => newline? s

/-- Skips blanks, comments and ends of lines, as they may stand between the items of an array. -/
def fill? (inComment : Bool) : List Char → Option (List Char)
  | [] => if inComment then none else some []
  | '\n' :: r => fill? false r
  | '\r' :: '\n' :: r => fill? false r
  | '\r' :: _ => none
  | c :: r =>
    if inComment then if isPlain c then fill? true r else none
    else if isBlank c then fill? false r
    else if c = '#' then fill? true r
    else some (c :: r)

end TreeHaul.Toml
