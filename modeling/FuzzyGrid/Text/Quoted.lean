import FuzzyGrid.Text.Hidden

/-!
# Quoted paths

A path in a message stands between double quotes.  Double quotes, backslashes
and hidden characters are written as escapes; a single quote stands for itself.
-/

namespace FuzzyGrid.Quoted

/-- A character by its number. -/
def byNumber (value : Char) : List Char :=
  ['\\', 'u', '\x7b'] ++ Nat.toDigits 16 value.toNat ++ ['\x7d']

/-- How a character is written between quotes. -/
def escape (value : Char) : List Char :=
  match value with
  | '\x00' => ['\\', '0']
  | '\t' => ['\\', 't']
  | '\r' => ['\\', 'r']
  | '\n' => ['\\', 'n']
  | '"' => ['\\', '"']
  | '\\' => ['\\', '\\']
  | other => if isHidden other then byNumber other else [other]

/-- A text between quotes. -/
def encode (text : String) : String :=
  String.ofList ('"' :: (text.toList.flatMap escape ++ ['"']))

end FuzzyGrid.Quoted
