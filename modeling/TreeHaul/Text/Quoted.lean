import TreeHaul.Text.Unseen

/-!
Texts in double quotes, with escapes for what would end the quote or would not be seen.
-/

namespace TreeHaul.Text.Quoted

/-- The digits of `n` to the base sixteen, in lower case. -/
def hexDigits (n : Nat) : List Char := Nat.toDigits 16 n

/-- How one character stands between the quotes. -/
def encodeChar (c : Char) : List Char :=
  match c with
  | '\x00' => ['\\', '0']
  | '\t' => ['\\', 't']
  | '\r' => ['\\', 'r']
  | '\n' => ['\\', 'n']
  | '"' => ['\\', '"']
  | '\\' => ['\\', '\\']
  | c => if isUnseen c then "\\u\x7b".toList ++ hexDigits c.toNat ++ ['\x7d'] else [c]

def encode (s : String) : String :=
  String.ofList ('"' :: s.toList.flatMap encodeChar ++ ['"'])

end TreeHaul.Text.Quoted
