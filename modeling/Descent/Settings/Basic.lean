import Descent.Calc.Grammar
import Descent.Reader
import Descent.Settings.Tree
import Descent.Text.Quoted

/-!
# Settings

The settings of the program and how they are found in a tree: each group is a table, or a list with
the settings of the group in order.
-/

namespace Descent

namespace Settings

/-- What is printed for an expression: its value, or its tree in one of two formats. -/
inductive OutputFormat where
  | value
  | json
  | yaml
deriving DecidableEq, Repr, Inhabited

/-- What is printed. -/
structure OutputOptions where
  format : OutputFormat := .value
deriving DecidableEq, Repr, Inhabited

end Settings

/-- The settings of the program. -/
structure Settings where
  reader : ReaderOptions := {}
  calculator : Calc.CalcOptions := {}
  output : Settings.OutputOptions := {}
deriving DecidableEq, Repr, Inhabited

namespace Settings

/-! ## Errors -/

/-- Why there are no settings. -/
inductive SettingsError where
  /-- A group or a choice has a form that it cannot have. -/
  | malformed (text : String)
  /-- A value is no boolean: what it is, where it stands and the file that it comes from. -/
  | notBoolean (found key : String) (origin? : Option String)
  /-- The key of an override is no path. -/
  | badKey
  /-- A file is no TOML. -/
  | badFile
  /-- A required file does not exist. -/
  | missingFile (name : String)
deriving DecidableEq, Repr, Inhabited

namespace SettingsError

/-- The text of the error. What is wrong with a file or with the key of an override is left to
those who read them. -/
def message : SettingsError → String
  | malformed text => text
  | notBoolean found key origin? =>
    "invalid type: " ++ found ++ ", expected a boolean for key `" ++ key ++ "`" ++
      match origin? with
      | some origin => " in " ++ origin
      | none => ""
  | badKey => "<key error>"
  | badFile => "<TOML parse error>"
  | missingFile name => "configuration file \"" ++ name ++ "\" not found"

end SettingsError

/-- A result of looking at a tree. -/
abbrev Found := Except SettingsError

/-! ## Values -/

/-- What a scalar is. -/
def Scalar.describe : Scalar → String
  | unit => "unit value"
  | bool b => "boolean `" ++ (if b then "true" else "false") ++ "`"
  | int n => "integer `" ++ Text.decimalString n ++ "`"
  | float x => "floating point `" ++ String.ofList x.text ++ "`"
  | str s => "string " ++ String.ofList (Text.quoted s.toList)

/-- The boolean that a word stands for, in any case. -/
def boolOfWord? : String → Option Bool
  | "1" | "true" | "on" | "yes" => some true
  | "0" | "false" | "off" | "no" => some false
  | _ => none

/-- The boolean that a scalar stands for: a number stands for whether it is zero. -/
def Scalar.toBool? : Scalar → Option Bool
  | unit => none
  | bool b => some b
  | int n => some (n != 0)
  | float x => some !x.isZero
  | str s => boolOfWord? (Text.lower s)

/-- The boolean that a tree stands for; `key` is where it stands. -/
def Tree.toBool (key : String) : Tree → Found Bool
  | scalar origin? s =>
    match s.toBool? with
    | some b => .ok b
    | none =>
      let shown := match s with
        | .str s => Scalar.str (Text.lower s)
        | s => s
      .error (.notBoolean shown.describe key origin?)
  | list origin? _ => .error (.notBoolean "sequence" key origin?)
  | table origin? _ => .error (.notBoolean "map" key origin?)

/-- The format of that name, in any case. -/
def OutputFormat.ofName? (name : String) : Option OutputFormat :=
  match Text.lower name with
  | "value" => some .value
  | "json" => some .json
  | "yaml" => some .yaml
  | _ => none

/-- The format that a tree stands for: its name, or a table with the name as its only key. -/
def Tree.toFormat (tree : Tree) : Found OutputFormat :=
  let named (name : String) : Found OutputFormat :=
    match OutputFormat.ofName? name with
    | some format => .ok format
    | none =>
      .error (.malformed ("enum OutputFormat does not have variant constructor " ++ name))
  match tree with
  | scalar _ (.str name) => named name
  | table _ [(name, _)] => named name
  | _ => .error (.malformed ("value of enum OutputFormat should be represented by either string " ++
      "or table with exactly one key"))

/-! ## Groups -/

/-- The only setting of a group: under its name in a table, or first in a list. `read` is given
where it stands. -/
def Tree.only {α : Type} (tree : Tree) (what group field : String) (read : String → Tree → Found α) :
    Found α :=
  match tree with
  | table _ entries =>
    match entries.lookup field with
    | some value => read (group ++ "." ++ field) value
    | none => .error (.malformed ("missing field `" ++ field ++ "`"))
  | list _ (first :: _) => read (group ++ "[0]") first
  | list _ [] => .error (.malformed ("invalid length 0, expected struct " ++ what ++
      " with 1 element"))
  | scalar _ s => .error (.malformed ("invalid type: " ++ s.describe ++ ", expected struct " ++
      what))

/-- The part of a tree under a key. -/
def Tree.group (name : String) (tree : Tree) : Found Tree :=
  match tree.entries.lookup name with
  | some group => .ok group
  | none => .error (.malformed ("missing field `" ++ name ++ "`"))

/-- The settings of a tree. -/
def ofTree (tree : Tree) : Found Settings := do
  let requireComplete ←
    (← tree.group "driver").only "DriverOptions" "driver" "require_complete" Tree.toBool
  let allowWhitespace ←
    (← tree.group "calc").only "CalcOptions" "calc" "allow_whitespace" Tree.toBool
  let format ←
    (← tree.group "output").only "OutputOptions" "output" "format" fun _ tree => tree.toFormat
  return ⟨⟨requireComplete⟩, ⟨allowWhitespace⟩, ⟨format⟩⟩

/-- The tree under all layers: the whole input is parsed, without blanks, and the value is
printed. -/
def defaults : Tree :=
  let group (name field : String) (value : Scalar) : String × Tree :=
    (name, .table none [(field, .scalar none value)])
  .table none
    [group "driver" "require_complete" (.bool true),
      group "calc" "allow_whitespace" (.bool false),
      group "output" "format" (.str "value")]

end Settings

end Descent
