import Descent.Unicode.Property

/-!
# Quoted text

Text as it is shown to a developer: in double quotes, with an escape for what does not print.
-/

namespace Descent.Text

/-- The digits of a number to base 16, in lower case. -/
def hexDigits (n : Nat) : List Char := Nat.toDigits 16 n

/-- The characters that are shown as they are: all with a category, but for controls, formats,
private use and separators other than the plain space, and marks that extend the character before
them. -/
def printable : CharSet :=
  (Unicode.assigned.diff
    ((Unicode.inCategories ["cc", "cf", "co", "zl", "zp", "zs"]).union
      Unicode.graphemeExtend)).union (CharSet.singleton ' ')

/-- A character inside quotes. -/
def quotedChar (c : Char) : List Char :=
  match c with
  | '"' => ['\\', '"']
  | '\\' => ['\\', '\\']
  | '\n' => ['\\', 'n']
  | '\r' => ['\\', 'r']
  | '\t' => ['\\', 't']
  | '\x00' => ['\\', '0']
  | c =>
    if printable.contains c then [c]
    else ['\\', 'u', '\x7b'] ++ hexDigits c.toNat ++ ['\x7d']

/-- A text in quotes. -/
def quoted (cs : List Char) : List Char := '"' :: (cs.flatMap quotedChar ++ ['"'])

end Descent.Text
