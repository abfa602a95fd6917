import Descent.Value.Json

/-!
# Sums and differences

The trees of the calculator: a first atom, and operators with the atoms after them, where an atom is
a number or an expression in parentheses. A tree is a value with one array for each level of
parentheses, such as `[1,"+",[2,"-",3]]`.
-/

namespace Descent.Calc

inductive Operator where
  | plus
  | minus
deriving DecidableEq, Repr

mutual

/-- A number, or an expression in parentheses. -/
inductive Atom where
  | number (n : Int)
  | group (inner : Expr)

/-- An atom, and more atoms with the operators before them. -/
inductive Expr where
  | mk (first : Atom) (rest : List (Operator × Atom))

end

namespace Operator

/-- The character of an operator. -/
def symbol : Operator → Char
  | plus => '+'
  | minus => '-'

/-- The operator of a character. -/
def ofSymbol? : Char → Option Operator
  | '+' => some plus
  | '-' => some minus
  | _ => none

@[simp] theorem ofSymbol?_symbol (op : Operator) : ofSymbol? op.symbol = some op := by
  cases op <;> rfl

/-- The operator as a value. -/
def toValue (op : Operator) : Value := .ofChars [op.symbol]

end Operator

namespace Expr

/-- The first atom. -/
def first : Expr → Atom
  | mk first _ => first

/-- The operators and the atoms after them. -/
def rest : Expr → List (Operator × Atom)
  | mk _ rest => rest

end Expr

/-! ## Trees as values -/

mutual

/-- The value of an atom. -/
def Atom.toValue : Atom → Value
  | .number n => .num n
  | .group inner => inner.toValue

/-- The value of a tree: an array with atoms at even places and operators at odd ones. -/
def Expr.toValue : Expr → Value
  | .mk first rest => .arr (first.toValue :: restValues rest)

/-- The operators and atoms as items. -/
def restValues : List (Operator × Atom) → List Value
  | [] => []
  | (op, atom) :: rest => op.toValue :: atom.toValue :: restValues rest

end

mutual

/-- The atom of a value, if there is one. -/
def Atom.ofValue? : Value → Option Atom
  | .num n => some (.number n)
  | .arr items => (ofItems? items).map .group
  | _ => none

/-- The tree of the items of an array. -/
def ofItems? : List Value → Option Expr
  | [] => none
  | first :: rest => do
    let first ← Atom.ofValue? first
    some (.mk first (← ofRestItems? rest))

/-- The operators and atoms of the items after the first one. -/
def ofRestItems? : List Value → Option (List (Operator × Atom))
  | [] => some []
  | .str symbol :: atom :: rest => do
    let [symbol] := symbol.toList | none
    let op ← Operator.ofSymbol? symbol
    let atom ← Atom.ofValue? atom
    some ((op, atom) :: (← ofRestItems? rest))
  | _ => none

end

/-- The tree of a value, if there is one. -/
def Expr.ofValue? : Value → Option Expr
  | .arr items => ofItems? items
  | _ => none

/-! ## Trees as text -/

/-- The JSON text of a tree. -/
def Expr.json (e : Expr) : List Char := e.toValue.json

/-- An operator as a scalar of YAML. A hyphen alone would start an item, so it is quoted. -/
def Operator.yaml : Operator → List Char
  | plus => ['+']
  | minus => ['\'', '-', '\'']

mutual

/-- An item with the atom, in a list indented by `indent`. -/
def Atom.yamlItem (indent : Nat) : Atom → List Char
  | .number n => ['-', ' '] ++ Text.decimal n ++ ['\n']
  | .group inner => ['-', ' '] ++ inner.yamlList (indent + 2)

/-- The YAML list of a tree. The first item starts where the list starts, the others on lines of
their own. -/
def Expr.yamlList (indent : Nat) : Expr → List Char
  | .mk first rest => first.yamlItem indent ++ yamlRest indent rest

/-- The items after the first one. -/
def yamlRest (indent : Nat) : List (Operator × Atom) → List Char
  | [] => []
  | (op, atom) :: rest =>
    List.replicate indent ' ' ++ ['-', ' '] ++ op.yaml ++ ['\n'] ++
      List.replicate indent ' ' ++ atom.yamlItem indent ++ yamlRest indent rest

end

/-- The YAML text of a tree, with one item on a line. -/
def Expr.yaml (e : Expr) : List Char := e.yamlList 0

end Descent.Calc
