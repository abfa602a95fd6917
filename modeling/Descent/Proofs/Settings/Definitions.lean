import Descent.Proofs.Settings.Merging

/-!
# Definitions of settings

A setting stands under a key of one of the three groups. What a layer does to it is told from the
definitions of that setting in the layer (`Setting.definitions`), and nothing else in the layer
matters, as long as the groups stay tables (`Setting.find?_put`, `GroupsAreTables`).
`Setting.resolve` is the value after all definitions: the topmost one decides, but one that is a
table is laid over what is below it.
-/

namespace Descent.Settings

/-! ## Settings and their definitions -/

/-- The settings that the program has. -/
inductive Setting where
  | requireComplete
  | allowWhitespace
  | format
deriving DecidableEq, Repr

/-- A definition of a setting: a value, and the path to it from where the setting stands. -/
abbrev Definition := Path × Tree

/-- The path that the name of an entry of a file writes. -/
def pathOf (name : String) : Path := (Path.ofText? name.toList).getD [.key name]

namespace Setting

/-- The table that the setting stands in. -/
def group : Setting → String
  | requireComplete => "driver"
  | allowWhitespace => "calc"
  | format => "output"

/-- The key of the setting in its table. -/
def field : Setting → String
  | requireComplete => "require_complete"
  | allowWhitespace => "allow_whitespace"
  | format => "format"

/-- The key of the setting from the root. -/
def key (s : Setting) : String := s.group ++ "." ++ s.field

/-- The path to the setting from the root. -/
def path (s : Setting) : Path := [.key s.group, .key s.field]

/-- The value under all layers. -/
def default : Setting → Tree
  | requireComplete => .scalar none (.bool true)
  | allowWhitespace => .scalar none (.bool false)
  | format => .scalar none (.str "value")

/-- The settings read the tree as the value of this one. -/
def Reads (tree : Tree) (settings : Settings) : Setting → Prop
  | requireComplete =>
    tree.toBool requireComplete.key = .ok settings.reader.requireComplete
  | allowWhitespace =>
    tree.toBool allowWhitespace.key = .ok settings.calculator.allowWhitespace
  | format => tree.toFormat = .ok settings.output.format

/-- The definitions of the setting in what is put at a path from the root. -/
def definitions (s : Setting) : Path → Tree → List Definition
  | [.key name], .table _ entries =>
    if Text.lower name = s.group then (Tree.valuesUnder s.field entries).map ([], ·) else []
  | .key name :: .key field :: path, value =>
    if Text.lower name = s.group ∧ Text.lower field = s.field then [(path, value)] else []
  | _, _ => []

/-- The value of the setting after its definitions, given with the topmost one first. -/
def resolve (s : Setting) : List Definition → Tree
  | [] => s.default
  | ([], .table _ entries) :: below => Tree.mergeAll entries (s.resolve below)
  | ([], value) :: _ => value
  | (path, value) :: below => (s.resolve below).put path value

/-- The value of the topmost definition. -/
def topmost (s : Setting) : List Definition → Tree
  | [] => s.default
  | (_, value) :: _ => value

/-- The setting of a tree. -/
def find? (s : Setting) (tree : Tree) : Option Tree :=
  (tree.entries.lookup s.group).bind fun group => group.entries.lookup s.field

end Setting

/-- The definitions of a setting in the entries of a file, in the order of the file. There is more
than one only in a file that spells the key in two ways, and which of these wins is not laid down
but a choice (`Tree.layer`). -/
def Setting.definitionsIn (s : Setting) (entries : List (String × Tree)) : List Definition :=
  entries.flatMap fun (name, value) => s.definitions (pathOf name) value

/-- In the entries of a file, what stands under a group of settings is a table. -/
def GroupsAreTables (entries : List (String × Tree)) : Prop :=
  ∀ name value, (name, value) ∈ entries → ∀ (s : Setting) (key : String) (path : Path),
    pathOf name = .key key :: path → Text.lower key = s.group →
      (path = [] → ∃ origin? inner, value = .table origin? inner) ∧
      ∀ i rest, path ≠ .index i :: rest

/-! ## One definition after the other -/

/-- What the definitions make of the value below, the first one first. -/
def Tree.defineAll (below : Tree) (definitions : List Definition) : Tree :=
  definitions.foldl (fun below definition => Tree.define (some below) definition.1 definition.2)
    below

namespace Setting

theorem resolve_cons (s : Setting) (definition : Definition) (below : List Definition) :
    s.resolve (definition :: below) =
      Tree.define (some (s.resolve below)) definition.1 definition.2 := by
  obtain ⟨path, value⟩ := definition
  cases path with
  | nil => cases value <;> simp [resolve, Tree.define, Tree.laidOver]
  | cons step path => simp [resolve, Tree.define]

/-- To look at the topmost definition first comes to the same as to lay one over the other. -/
theorem resolve_reverse_append (s : Setting) (definitions below : List Definition) :
    s.resolve (definitions.reverse ++ below) = (s.resolve below).defineAll definitions := by
  induction definitions generalizing below with
  | nil => rfl
  | cons definition definitions ih =>
    rw [List.reverse_cons, List.append_assoc, List.singleton_append, ih, resolve_cons]
    rfl

/-! ### In a tree -/

section
variable {s : Setting} {tree value below : Tree} {name : String} {path : Path}

theorem exists_group_of_find? (h : s.find? tree = some below) :
    ∃ group, tree.entries.lookup s.group = some group ∧
      group.entries.lookup s.field = some below := Option.bind_eq_some_iff.1 h

/-- What is put at a path that leads elsewhere does not matter. -/
theorem find?_put_of_ne (h : s.find? tree = some below) (hne : Text.lower name ≠ s.group) :
    s.find? (tree.put (.key name :: path) value) = some below := by
  rw [find?, Tree.lookup_put, if_neg (Ne.symm hne)]
  exact h

/-- A table that is put at the group is laid over it. -/
theorem find?_put_group (h : s.find? tree = some below) (hname : Text.lower name = s.group)
    (origin? : Option String) (entries : List (String × Tree)) :
    s.find? (tree.put [.key name] (.table origin? entries)) =
      some (below.defineAll ((Tree.valuesUnder s.field entries).map ([], ·))) := by
  obtain ⟨group, hgroup, hfield⟩ := exists_group_of_find? h
  rw [find?, Tree.lookup_put, if_pos hname.symm, hgroup]
  simp only [Option.bind_some, Tree.define, Tree.laidOver, Option.getD_some, Tree.lookup_mergeAll,
    hfield]
  rw [Tree.defineAll, List.foldl_map]
  generalize Tree.valuesUnder s.field entries = values
  clear h hfield
  induction values generalizing below with
  | nil => rfl
  | cons value values ih => exact ih

/-- What is put at a path through the group is put at the setting, or beside it. -/
theorem find?_put_field (h : s.find? tree = some below) (hname : Text.lower name = s.group)
    (field : String) :
    s.find? (tree.put (.key name :: .key field :: path) value) =
      some (if Text.lower field = s.field then Tree.define (some below) path value else below) := by
  obtain ⟨group, hgroup, hfield⟩ := exists_group_of_find? h
  rw [find?, Tree.lookup_put, if_pos hname.symm, hgroup, Option.bind_some,
    Tree.define_cons, Option.getD_some, Tree.lookup_put, hfield]
  by_cases hf : Text.lower field = s.field
  · rw [if_pos hf, if_pos hf.symm]
  · rw [if_neg hf, if_neg (Ne.symm hf)]

/-- What is put at a path defines the setting as its definitions say, if the group stays a
table. -/
theorem find?_put (h : s.find? tree = some below)
    (htable : Text.lower name = s.group →
      (path = [] → ∃ origin? inner, value = .table origin? inner) ∧
      ∀ i rest, path ≠ .index i :: rest) :
    s.find? (tree.put (.key name :: path) value) =
      some (below.defineAll (s.definitions (.key name :: path) value)) := by
  by_cases hname : Text.lower name = s.group
  · obtain ⟨hnil, hindex⟩ := htable hname
    match path with
    | [] =>
      obtain ⟨origin?, inner, rfl⟩ := hnil rfl
      rw [find?_put_group h hname, definitions, if_pos hname]
    | .key field :: path =>
      rw [find?_put_field h hname, definitions]
      by_cases hf : Text.lower field = s.field <;> simp [hname, hf, Tree.defineAll]
    | .index i :: rest => exact absurd rfl (hindex i rest)
  · rw [find?_put_of_ne h hname]
    match path with
    | [] => cases value <;> simp [definitions, hname, Tree.defineAll]
    | .key field :: path => simp [definitions, hname, Tree.defineAll]
    | .index i :: rest => simp [definitions, Tree.defineAll]

end

/-! ### In a file -/

theorem exists_pathOf_eq (name : String) : ∃ key path, pathOf name = .key key :: path := by
  unfold pathOf Path.ofText?
  dsimp only
  split
  · exact ⟨name, [], rfl⟩
  · cases readPathSteps? (name.toList.length + 1)
      (name.toList.drop (name.toList.takeWhile isPathChar).length) with
    | none => exact ⟨name, [], rfl⟩
    | some steps => exact ⟨_, steps, rfl⟩

theorem find?_layer {s : Setting} {tree below : Tree} {entries : List (String × Tree)}
    (h : s.find? tree = some below) (hentries : GroupsAreTables entries) :
    s.find? (tree.layer entries) = some (below.defineAll (s.definitionsIn entries)) := by
  unfold Tree.layer
  induction entries generalizing tree below with
  | nil => exact h
  | cons entry entries ih =>
    obtain ⟨name, value⟩ := entry
    obtain ⟨key, path, hpath⟩ := exists_pathOf_eq name
    have hput := find?_put h (hentries name value List.mem_cons_self s key path hpath)
    rw [← hpath] at hput
    have hrest := fun name value hmem => hentries name value (List.mem_cons_of_mem _ hmem)
    refine (ih hput hrest).trans ?_
    simp only [definitionsIn, List.flatMap_cons, Tree.defineAll, List.foldl_append]

end Setting

end Descent.Settings
