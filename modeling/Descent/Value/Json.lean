import Descent.Text.Quoted
import Descent.Value.Basic

/-!
# Values as JSON text

The compact form, without blanks. Inside strings only quotes, backslashes and control characters
are escaped.
-/

namespace Descent.Value

/-- A character inside a JSON string. -/
def jsonChar (c : Char) : List Char :=
  match c with
  | '"' => ['\\', '"']
  | '\\' => ['\\', '\\']
  | '\n' => ['\\', 'n']
  | '\r' => ['\\', 'r']
  | '\t' => ['\\', 't']
  | '\x08' => ['\\', 'b']
  | '\x0c' => ['\\', 'f']
  | c =>
    if c.toNat < 0x20 then
      let digits := Text.hexDigits c.toNat
      ['\\', 'u', '0', '0'] ++ (if c.toNat < 0x10 then '0' :: digits else digits)
    else [c]

/-- A JSON string. -/
def jsonString (cs : List Char) : List Char := '"' :: (cs.flatMap jsonChar ++ ['"'])

mutual

/-- The JSON text of a value. -/
def json : Value → List Char
  | null => ['n', 'u', 'l', 'l']
  | bool true => ['t', 'r', 'u', 'e']
  | bool false => ['f', 'a', 'l', 's', 'e']
  | num n => Text.decimal n
  | str s => jsonString s.toList
  | arr [] => ['[', ']']
  | arr (v :: vs) => '[' :: (v.json ++ itemsJson vs)
  | obj [] => ['\x7b', '\x7d']
  | obj ((k, v) :: entries) =>
    '\x7b' :: (jsonString k.toList ++ ':' :: (v.json ++ entriesJson entries))

/-- The items after the first one, each after a comma, and the closing bracket. -/
def itemsJson : List Value → List Char
  | [] => [']']
  | v :: vs => ',' :: (v.json ++ itemsJson vs)

/-- The entries after the first one, each after a comma, and the closing brace. -/
def entriesJson : List (String × Value) → List Char
  | [] => ['\x7d']
  | (k, v) :: entries => ',' :: (jsonString k.toList ++ ':' :: (v.json ++ entriesJson entries))

end

/-- The JSON text of a value as a string. -/
def jsonText (v : Value) : String := String.ofList v.json

end Descent.Value
