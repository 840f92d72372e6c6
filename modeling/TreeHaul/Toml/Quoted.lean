import TreeHaul.Toml.Blank

/-!
The four kinds of quoted text in TOML: on one line or on several, with escapes or as it stands.
-/

namespace TreeHaul.Toml

def isDigit (c : Char) : Bool := '0' ≤ c && c ≤ '9'

/-- The value of a digit to the base sixteen, in either case. -/
def hexValue? (c : Char) : Option Nat :=
  if isDigit c then some (c.toNat - 48)
  else if 'a' ≤ c && c ≤ 'f' then some (c.toNat - 87)
  else if 'A' ≤ c && c ≤ 'F' then some (c.toNat - 55)
  else none

/-- The character of a code given by its digits. -/
def codeChar? (digits : List Char) : Option Char := do
  let n ← digits.foldlM (fun n c => (hexValue? c).map (16 * n + ·)) 0
  if h : n.isValidChar then some (Char.ofNatAux n h) else none

/-- The escapes of one letter. -/
def shortEscape? : Char → Option Char
  | 'b' => some '\x08'
  | 't' => some '\t'
  | 'n' => some '\n'
  | 'f' => some '\x0c'
  | 'r' => some '\r'
  | '"' => some '"'
  | '\\' => some '\\'
  | _ => none

/-- The rest of a text in double quotes, after what is read of it, latest first. -/
def basic? : List Char → Reader (List Char)
  | _, [] => none
  | done, '"' :: r => some (done.reverse, r)
  | done, '\\' :: 'u' :: a :: b :: c :: d :: r => do
    basic? ((← codeChar? [a, b, c, d]) :: done) r
  | done, '\\' :: 'U' :: a :: b :: c :: d :: e :: f :: g :: h :: r => do
    basic? ((← codeChar? [a, b, c, d, e, f, g, h]) :: done) r
  | done, '\\' :: e :: r => do basic? ((← shortEscape? e) :: done) r
  | done, c :: r => if isPlain c && c != '\\' then basic? (c :: done) r else none

/-- The rest of a text in single quotes, after what is read of it, latest first. -/
def literal? : List Char → Reader (List Char)
  | _, [] => none
  | done, '\'' :: r => some (done.reverse, r)
  | done, c :: r => if isPlain c then literal? (c :: done) r else none

/-- Within a text of several lines, whether a backslash has cut the line: not at all, or blanks up
to the end of the line are awaited, or all blanks and ends of lines are skipped. -/
inductive Cut where
  | none | awaited | skipping
  deriving DecidableEq

/-- The rest of a text in three double quotes, after what is read of it, latest first. Up to two
quotes may stand right before the end. -/
def longBasic? : Cut → List Char → Reader (List Char)
  | _, _, [] => Option.none
  | .awaited, done, '\n' :: r => longBasic? .skipping done r
  | .awaited, done, '\r' :: '\n' :: r => longBasic? .skipping done r
  | .awaited, done, c :: r => if isBlank c then longBasic? .awaited done r else Option.none
  | .skipping, done, '\n' :: r => longBasic? .skipping done r
  | .none, done, '\n' :: r => longBasic? .none ('\n' :: done) r
  | .skipping, done, '\r' :: '\n' :: r => longBasic? .skipping done r
  | .none, done, '\r' :: '\n' :: r => longBasic? .none ('\n' :: done) r
  | _, done, '"' :: '"' :: '"' :: '"' :: '"' :: r => some (('"' :: '"' :: done).reverse, r)
  | _, done, '"' :: '"' :: '"' :: '"' :: r => some (('"' :: done).reverse, r)
  | _, done, '"' :: '"' :: '"' :: r => some (done.reverse, r)
  | _, done, '"' :: r => longBasic? .none ('"' :: done) r
  | _, done, '\\' :: 'u' :: a :: b :: c :: d :: r => do
    longBasic? .none ((← codeChar? [a, b, c, d]) :: done) r
  | _, done, '\\' :: 'U' :: a :: b :: c :: d :: e :: f :: g :: h :: r => do
    longBasic? .none ((← codeChar? [a, b, c, d, e, f, g, h]) :: done) r
  | _, done, '\\' :: '\n' :: r => longBasic? .skipping done r
  | _, done, '\\' :: '\r' :: '\n' :: r => longBasic? .skipping done r
  | _, done, '\\' :: ' ' :: r => longBasic? .awaited done r
  | _, done, '\\' :: '\t' :: r => longBasic? .awaited done r
  | _, done, '\\' :: e :: r => do longBasic? .none ((← shortEscape? e) :: done) r
  | cut, done, c :: r =>
    if cut = .skipping && isBlank c then longBasic? .skipping done r
    else if isPlain c && c != '\\' then longBasic? .none (c :: done) r
    else Option.none

/-- The rest of a text in three single quotes, after what is read of it, latest first. -/
def longLiteral? : List Char → Reader (List Char)
  | _, [] => none
  | done, '\n' :: r => longLiteral? ('\n' :: done) r
  | done, '\r' :: '\n' :: r => longLiteral? ('\n' :: done) r
  | done, '\'' :: '\'' :: '\'' :: '\'' :: '\'' :: r => some (('\'' :: '\'' :: done).reverse, r)
  | done, '\'' :: '\'' :: '\'' :: '\'' :: r => some (('\'' :: done).reverse, r)
  | done, '\'' :: '\'' :: '\'' :: r => some (done.reverse, r)
  | done, '\'' :: r => longLiteral? ('\'' :: done) r
  | done, c :: r => if isPlain c then longLiteral? (c :: done) r else none

/-- The end of a line right after the opening quotes is no part of the text. -/
def skipFirstNewline (s : List Char) : List Char := (newline? s).getD s

/-- A quoted text of any kind. -/
def quoted? : Reader (List Char)
  | '"' :: '"' :: '"' :: r => longBasic? .none [] (skipFirstNewline r)
  | '\'' :: '\'' :: '\'' :: r => longLiteral? [] (skipFirstNewline r)
  | '"' :: r => basic? [] r
  | '\'' :: r => literal? [] r
  | _ => none

def isBareKeyChar (c : Char) : Bool :=
  isDigit c || ('a' ≤ c && c ≤ 'z') || ('A' ≤ c && c ≤ 'Z') || c == '-' || c == '_'

/-- One part of a key: a word, or a quoted text on one line. -/
def keyPart? (s : List Char) : Option (String × List Char) :=
  match s with
  | '"' :: r => (basic? [] r).map fun (cs, r) => (String.ofList cs, r)
  | '\'' :: r => (literal? [] r).map fun (cs, r) => (String.ofList cs, r)
  | _ =>
    match s.takeWhile isBareKeyChar, s.dropWhile isBareKeyChar with
    | [], _ => none
    | cs, r => some (String.ofList cs, r)

end TreeHaul.Toml
