import Descent.Text.LowerCase
import Descent.Toml.Value

/-!
# Trees of settings

What layers of settings consist of: scalars, lists and tables, each with the file that it comes
from. Keys are in lower case. `Tree.put` sets a value at a path and makes room for it: what stands
in the way of a key is replaced by a table, and what stands in the way of an index by a list.
-/

namespace Descent.Settings

/-- A single value. -/
inductive Scalar where
  | unit
  | bool (b : Bool)
  | int (n : Int)
  | float (x : Text.Double)
  | str (s : String)
deriving DecidableEq, Repr, Inhabited

/-- A value with the name of the file that it comes from, if it comes from one. -/
inductive Tree where
  | scalar (origin? : Option String) (value : Scalar)
  | list (origin? : Option String) (items : List Tree)
  | table (origin? : Option String) (entries : List (String × Tree))
deriving Repr, Inhabited

/-- A step from a tree to a part of it. Negative indices count from the end. -/
inductive PathStep where
  | key (name : String)
  | index (i : Int)
deriving DecidableEq, Repr

/-- The way to a setting. -/
abbrev Path := List PathStep

/-- A single value is a tree, which comes from no file. -/
instance : Coe Scalar Tree := ⟨Tree.scalar none⟩

namespace Tree

/-- The value that stands where nothing has been set. -/
def unset : Tree := scalar none .unit

/-- A table without entries. -/
def emptyTable : Tree := table none []

/-- The entries of a table; anything else has none. -/
def entries : Tree → List (String × Tree)
  | table _ entries => entries
  | _ => []

/-- The items of a list; anything else has none. -/
def items : Tree → List Tree
  | list _ items => items
  | _ => []

/-- The file that a value comes from. -/
def origin? : Tree → Option String
  | scalar origin? _ => origin?
  | list origin? _ => origin?
  | table origin? _ => origin?

/-- Puts a value under a key, in the place of the one that is there. -/
def putEntry (name : String) (value : Tree) : List (String × Tree) → List (String × Tree)
  | [] => [(name, value)]
  | (k, v) :: rest => if k = name then (k, value) :: rest else (k, v) :: putEntry name value rest

/-- Changes the value under a key of a table. Anything but a table becomes one. -/
def atKey (name : String) (change : Option Tree → Tree) : Tree → Tree
  | table origin? entries => table origin? (putEntry name (change (entries.lookup name)) entries)
  | _ => table none [(name, change none)]

/-- Changes the item at an index of a list, which is filled up as far as necessary. Anything but a
list becomes one. -/
def atIndex (i : Int) (change : Tree → Tree) (tree : Tree) : Tree :=
  let origin? := match tree with
    | list origin? _ => origin?
    | _ => none
  let items := tree.items
  let missing := (-(items.length + i : Int)).toNat
  let items := if i < 0 then List.replicate missing unset ++ items else items
  let place := if i < 0 then (items.length + i : Int).toNat else i.toNat
  let items := items ++ List.replicate (place + 1 - items.length) unset
  list origin? (items.modify place change)

mutual

/-- Puts a value under a key of a table. Tables are merged key by key; all else replaces what was
there. -/
def merge (name : String) (value : Tree) (tree : Tree) : Tree :=
  match value with
  | table _ incoming =>
    tree.atKey (Text.lower name) fun old? => mergeAll incoming (old?.getD emptyTable)
  | value => tree.atKey (Text.lower name) fun _ => value

/-- Puts values under their keys. -/
def mergeAll : List (String × Tree) → Tree → Tree
  | [], tree => tree
  | (name, value) :: rest, tree => mergeAll rest (merge name value tree)

end

/-- Puts a value at the end of a path. -/
def put (tree : Tree) (path : Path) (value : Tree) : Tree :=
  match path with
  | [] => value
  | [.key name] => merge name value tree
  | .key name :: path => tree.atKey (Text.lower name) fun old? => (old?.getD unset).put path value
  | [.index i] => tree.atIndex i fun _ => value
  | .index i :: path => tree.atIndex i fun old => old.put path value

end Tree

/-! ## Reading paths -/

/-- Whether a character may stand in a name of a path. -/
def isPathChar (c : Char) : Bool := c.isAlphanum || c = '_' || c = '-' || c = ' '

/-- The greatest index, up to sign. -/
def maxIndex : Nat := 9223372036854775807

/-- Reads what follows the first name of a path: names after dots and indices in brackets. -/
def readPathSteps? : Nat → List Char → Option Path
  | _, [] => some []
  | 0, _ => none
  | fuel + 1, '.' :: rest =>
    let name := rest.takeWhile isPathChar
    if name.isEmpty then none
    else (readPathSteps? fuel (rest.drop name.length)).map (.key (String.ofList name) :: ·)
  | fuel + 1, '[' :: rest =>
    let negative := rest.head? == some '-'
    let rest := if negative then rest.drop 1 else rest
    let digits := rest.takeWhile Char.isDigit
    let bound := if negative then maxIndex + 1 else maxIndex
    match Text.natUpTo? bound digits, rest.drop digits.length with
    | some n, ']' :: rest =>
      (readPathSteps? fuel rest).map (.index (if negative then -(n : Int) else n) :: ·)
    | _, _ => none
  | _ + 1, _ => none

/-- The path that a text writes, such as `output.format` or `list[0]`. -/
def Path.ofText? (text : List Char) : Option Path :=
  let name := text.takeWhile isPathChar
  if name.isEmpty then none
  else
    (readPathSteps? (text.length + 1) (text.drop name.length)).map
      (.key (String.ofList name) :: ·)

/-! ## Files -/

mutual

/-- The tree of a value in a file. -/
def Tree.ofToml (origin : String) : Toml.Value → Tree
  | .str s => .scalar (some origin) (.str s)
  | .datetime s => .scalar (some origin) (.str s)
  | .int n => .scalar (some origin) (.int n)
  | .float x => .scalar (some origin) (.float x)
  | .bool b => .scalar (some origin) (.bool b)
  | .arr items => .list (some origin) (treesOfToml origin items)
  | .table entries => .table (some origin) (entriesOfToml origin entries)

def treesOfToml (origin : String) : List Toml.Value → List Tree
  | [] => []
  | v :: vs => Tree.ofToml origin v :: treesOfToml origin vs

def entriesOfToml (origin : String) : List (String × Toml.Value) → List (String × Tree)
  | [] => []
  | (k, v) :: rest => (k, Tree.ofToml origin v) :: entriesOfToml origin rest

end

/-- Lays the entries of a file over a tree. A key that reads as a path is one. Where a file spells a
key in two ways, such as `format` and `FORMAT`, or `"output.format"` beside a table `output`, no
order is laid down for its entries, and that of the file is a choice made here. -/
def Tree.layer (entries : List (String × Tree)) (tree : Tree) : Tree :=
  entries.foldl
    (fun tree (name, value) => tree.put ((Path.ofText? name.toList).getD [.key name]) value)
    tree

end Descent.Settings
