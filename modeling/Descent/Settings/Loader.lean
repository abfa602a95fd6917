import Descent.Settings.Basic
import Descent.Settings.Location
import Descent.Toml.Document

/-!
# Loading settings

Files are laid over the defaults in the order in which they were named, and overrides over all
files.
-/

namespace Descent.Settings

/-- A file to be laid over what is below it. One that is not required may be missing. -/
structure FileLayer where
  name : String
  required : Bool
deriving DecidableEq, Repr

/-- The files there are: what each place holds. -/
abbrev Files := String → Option String

/-- The place of a file and what it holds. -/
def locate (files : Files) (name : String) : Option (String × String) :=
  (Location.candidates name).findSome? fun place => (files place).map fun text => (place, text)

/-- The layers over the defaults. There is one override for each path. -/
structure Loader where
  files : List FileLayer := []
  overrides : List (Path × Tree) := []

namespace Loader

/-- Adds a file that has to exist. -/
def withFile (name : String) (loader : Loader) : Loader :=
  { loader with files := loader.files ++ [⟨name, true⟩] }

/-- Adds a file that may be missing. -/
def withOptionalFile (name : String) (loader : Loader) : Loader :=
  { loader with files := loader.files ++ [⟨name, false⟩] }

/-- Adds an override, if its key is a path. It takes the place of an earlier one for that path. -/
def setOverride (key : String) (value : Tree) (loader : Loader) : Found Loader :=
  match Path.ofText? key.toList with
  | some path =>
    let others := loader.overrides.filter fun entry => entry.1 ≠ path
    .ok { loader with overrides := others ++ [(path, value)] }
  | none => .error .badKey

/-- Lays a file over a tree. -/
def layFile (files : Files) (tree : Tree) (layer : FileLayer) : Found Tree :=
  match locate files layer.name with
  | none => if layer.required then .error (.missingFile layer.name) else .ok tree
  | some (place, text) =>
    match Toml.read? (Toml.withoutMark text.toList) with
    | none => .error .badFile
    | some entries => .ok (tree.layer (entriesOfToml place entries))

/-- The tree of all layers. -/
def tree (loader : Loader) (files : Files) : Found Tree := do
  let tree ← loader.files.foldlM (layFile files) defaults
  return loader.overrides.foldl (fun tree (path, value) => tree.put path value) tree

/-- The settings of all layers. -/
def build (loader : Loader) (files : Files) : Found Settings := do
  ofTree (← loader.tree files)

end Loader

end Descent.Settings
