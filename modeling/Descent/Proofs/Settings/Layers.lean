import Descent.Proofs.Settings.Definitions
import Descent.Settings.Loader
import Mathlib.Data.List.Basic
import Mathlib.Data.List.Induction

/-!
# Layers of settings

What a loader makes of a setting is told from the definitions of that setting alone
(`Setting.definitionsOf`): those of the files, one layer over the other, and over all of them the
last override. `Loader.build_after_calls` says so of every sequence of calls, for files in which
the groups of settings are tables (`Loader.ReadsGroups`), and tells when there are no settings.
-/

namespace Descent.Settings

/-! ## Calls -/

/-- A call that adds a layer. -/
inductive Call where
  | file (name : String)
  | optionalFile (name : String)
  | override (s : Setting) (value : Tree)

namespace Call

/-- What the call does to a loader. -/
def apply (loader : Loader) : Call → Found Loader
  | file name => .ok (loader.withFile name)
  | optionalFile name => .ok (loader.withOptionalFile name)
  | override s value => loader.setOverride s.key value

/-- The file that the call adds. -/
def layer? : Call → Option FileLayer
  | file name => some ⟨name, true⟩
  | optionalFile name => some ⟨name, false⟩
  | override _ _ => none

/-- The value that the call sets the setting to. -/
def value? (s : Setting) : Call → Option Tree
  | override s' value => if s' = s then some value else none
  | _ => none

end Call

/-- The entries of a file that is there. -/
def entriesAt? (files : Files) (name : String) : Option (List (String × Tree)) := do
  let (place, text) ← locate files name
  let entries ← Toml.read? (Toml.withoutMark text.toList)
  return entriesOfToml place entries

/-- The definitions of a setting in a file, which has none if it is missing. -/
def Setting.definitionsAt (s : Setting) (files : Files) (name : String) : List Definition :=
  ((entriesAt? files name).map s.definitionsIn).getD []

/-- All definitions of a setting, with the topmost one first: the last override, and below it the
definitions in files from the last one to the first one. -/
def Setting.definitionsOf (s : Setting) (files : Files) (calls : List Call) : List Definition :=
  ((calls.filterMap (Call.value? s)).getLast?.map fun value => ([], value)).toList ++
    ((calls.filterMap Call.layer?).flatMap fun layer => s.definitionsAt files layer.name).reverse

namespace Loader

/-! ## Files -/

/-- All files that are there are documents in which the groups of settings are tables. -/
def ReadsGroups (files : Files) (layers : List FileLayer) : Prop :=
  ∀ layer ∈ layers, locate files layer.name ≠ none →
    ∃ entries, entriesAt? files layer.name = some entries ∧ GroupsAreTables entries

section
variable {files : Files} {layer : FileLayer} {layers : List FileLayer} {tree : Tree}

theorem layFile_of_locate_eq_none (h : locate files layer.name = none) :
    layFile files tree layer =
      if layer.required then .error (.missingFile layer.name) else .ok tree := by
  rw [layFile, h]

theorem layFile_of_entriesAt? {entries : List (String × Tree)}
    (h : entriesAt? files layer.name = some entries) :
    layFile files tree layer = .ok (tree.layer entries) := by
  simp only [entriesAt?, Option.bind_eq_bind, Option.bind_eq_some_iff, Prod.exists,
    Option.pure_def, Option.some.injEq] at h
  obtain ⟨place, text, hl, entries, hr, rfl⟩ := h
  rw [layFile, hl]
  simp only [hr]

/-- A file that is there is laid over the tree; one that is missing changes nothing, if it may be
missing. -/
theorem exists_layFile (tree : Tree) (h : locate files layer.name ≠ none →
      ∃ entries, entriesAt? files layer.name = some entries ∧ GroupsAreTables entries)
    (hrequired : layer.required = true → locate files layer.name ≠ none) :
    ∃ tree', layFile files tree layer = .ok tree' ∧ ∀ (s : Setting) below,
      s.find? tree = some below →
        s.find? tree' = some (below.defineAll (s.definitionsAt files layer.name)) := by
  by_cases hl : locate files layer.name = none
  · refine ⟨tree, ?_, fun s below hs => ?_⟩
    · rw [layFile_of_locate_eq_none hl, if_neg fun hr => hrequired hr hl]
    · have hnone : entriesAt? files layer.name = none := by simp [entriesAt?, hl]
      rwa [Setting.definitionsAt, hnone]
  · obtain ⟨entries, he, hentries⟩ := h hl
    refine ⟨_, layFile_of_entriesAt? he, fun s below hs => ?_⟩
    rw [Setting.definitionsAt, he]
    exact Setting.find?_layer hs hentries

theorem exists_layFiles (tree : Tree) (h : ReadsGroups files layers)
    (hrequired : ∀ layer ∈ layers, layer.required = true → locate files layer.name ≠ none) :
    ∃ tree', layers.foldlM (layFile files) tree = .ok tree' ∧ ∀ (s : Setting) below,
      s.find? tree = some below → s.find? tree' =
        some (below.defineAll (layers.flatMap fun layer => s.definitionsAt files layer.name)) := by
  induction layers generalizing tree with
  | nil => exact ⟨tree, rfl, fun s below hs => hs⟩
  | cons layer layers ih =>
    obtain ⟨tree₁, hlay, hfind⟩ := exists_layFile tree (h layer List.mem_cons_self)
      (hrequired layer List.mem_cons_self)
    obtain ⟨tree₂, hlays, hfinds⟩ := ih tree₁
      (fun layer hmem => h layer (List.mem_cons_of_mem _ hmem))
      fun layer hmem => hrequired layer (List.mem_cons_of_mem _ hmem)
    refine ⟨tree₂, by rw [List.foldlM_cons, hlay]; exact hlays, fun s below hs => ?_⟩
    rw [hfinds s _ (hfind s below hs), List.flatMap_cons, Tree.defineAll, Tree.defineAll,
      Tree.defineAll, List.foldl_append]

/-- A required file that is missing is an error, unless a file before it is. -/
theorem exists_error_of_missing (tree : Tree) (hmem : layer ∈ layers)
    (hrequired : layer.required = true) (hmissing : locate files layer.name = none) :
    ∃ error, layers.foldlM (layFile files) tree = .error error := by
  induction layers generalizing tree with
  | nil => cases hmem
  | cons first layers ih =>
    rw [List.foldlM_cons]
    cases hlay : layFile files tree first with
    | error error => exact ⟨error, rfl⟩
    | ok tree₁ =>
      obtain rfl | hmem := List.mem_cons.1 hmem
      · rw [layFile_of_locate_eq_none hmissing, if_pos hrequired] at hlay
        cases hlay
      · exact ih tree₁ hmem

end

/-! ## Overrides -/

theorem path_inj {s s' : Setting} : s.path = s'.path ↔ s = s' := by
  cases s <;> cases s' <;> decide

/-- The key of a setting writes the path to it. -/
theorem ofText?_key (s : Setting) : Path.ofText? s.key.toList = some s.path := by
  cases s <;> decide +kernel

theorem definitions_path (s s' : Setting) (value : Tree) :
    s.definitions s'.path value = if s' = s then [([], value)] else [] := by
  have hlower : Text.lower s'.group = s'.group ∧ Text.lower s'.field = s'.field := by
    cases s' <;> decide +kernel
  rw [Setting.path, Setting.definitions, hlower.1, hlower.2]
  cases s <;> cases s' <;> rfl

theorem find?_put_path {s : Setting} {tree below : Tree} (h : s.find? tree = some below)
    (s' : Setting) (value : Tree) :
    s.find? (tree.put s'.path value) =
      some (below.defineAll (if s' = s then [([], value)] else [])) := by
  rw [← definitions_path]
  exact Setting.find?_put h fun _ => ⟨nofun, nofun⟩

/-- The overrides of a setting. -/
def overridesOf (s : Setting) (overrides : List (Path × Tree)) : List Tree :=
  overrides.filterMap fun entry => if entry.1 = s.path then some entry.2 else none

/-- Overrides of the settings are laid over the tree. -/
theorem find?_overrides {s : Setting} {tree below : Tree} {overrides : List (Path × Tree)}
    (h : s.find? tree = some below)
    (hpaths : ∀ entry ∈ overrides, ∃ s' : Setting, entry.1 = s'.path) :
    s.find? (overrides.foldl (fun tree (path, value) => tree.put path value) tree) =
      some (below.defineAll ((overridesOf s overrides).map ([], ·))) := by
  induction overrides generalizing tree below with
  | nil => exact h
  | cons entry overrides ih =>
    obtain ⟨path, value⟩ := entry
    obtain ⟨s', rfl⟩ : ∃ s' : Setting, path = s'.path := hpaths _ List.mem_cons_self
    refine (ih (find?_put_path h s' value) fun entry hmem =>
      hpaths entry (List.mem_cons_of_mem _ hmem)).trans ?_
    by_cases hs : s' = s
    · simp [overridesOf, hs, Tree.defineAll]
    · simp [overridesOf, hs, path_inj, Tree.defineAll]

/-- The last override of a setting is the only one that is kept. -/
theorem overridesOf_set (s s' : Setting) (value : Tree) (overrides : List (Path × Tree)) :
    overridesOf s ((overrides.filter fun entry => entry.1 ≠ s'.path) ++ [(s'.path, value)]) =
      if s' = s then [value] else overridesOf s overrides := by
  by_cases hs : s' = s
  · subst hs
    simp [overridesOf, List.filterMap_filter]
  · have hpath : s'.path ≠ s.path := fun h => hs (path_inj.1 h)
    rw [if_neg hs, overridesOf, List.filterMap_append, List.filterMap_filter]
    rw [show [(s'.path, value)].filterMap _ = [] from by simp [hpath], List.append_nil]
    refine List.filterMap_congr fun entry _ => ?_
    by_cases he : entry.1 = s.path <;> simp [he, Ne.symm hpath]

/-! ## Calls -/

/-- The loader after the calls. -/
def ofCalls (calls : List Call) : Found Loader := calls.foldlM Call.apply {}

/-- What a loader keeps of the calls. -/
structure Keeps (loader : Loader) (calls : List Call) : Prop where
  files_eq : loader.files = calls.filterMap Call.layer?
  overrides_eq : ∀ s, overridesOf s loader.overrides =
    (calls.filterMap (Call.value? s)).getLast?.toList
  paths : ∀ entry ∈ loader.overrides, ∃ s : Setting, entry.1 = s.path

theorem exists_ofCalls (calls : List Call) :
    ∃ loader, ofCalls calls = .ok loader ∧ loader.Keeps calls := by
  induction calls using List.reverseRecOn with
  | nil => exact ⟨{}, rfl, rfl, fun _ => rfl, nofun⟩
  | append_singleton calls call ih =>
    obtain ⟨loader, hloader, hkeeps⟩ := ih
    have happly : ofCalls (calls ++ [call]) = call.apply loader := by
      rw [ofCalls, List.foldlM_append, ← ofCalls, hloader]
      exact bind_pure (call.apply loader)
    cases call with
    | file name | optionalFile name =>
      refine ⟨_, happly, ?_, fun s => ?_, hkeeps.paths⟩
      · simp [withFile, withOptionalFile, hkeeps.files_eq, Call.layer?]
      · simpa [withFile, withOptionalFile, Call.value?] using hkeeps.overrides_eq s
    | override s' value =>
      rw [Call.apply, setOverride, ofText?_key] at happly
      refine ⟨_, happly, ?_, fun s => ?_, fun entry hmem => ?_⟩
      · simp [hkeeps.files_eq, Call.layer?]
      · rw [overridesOf_set, hkeeps.overrides_eq]
        by_cases hs : s' = s <;> simp [Call.value?, hs]
      · obtain hmem | hmem := List.mem_append.1 hmem
        · exact hkeeps.paths entry (List.mem_filter.1 hmem).1
        · exact ⟨s', by rw [List.mem_singleton.1 hmem]⟩

/-! ## The settings of a tree -/

theorem find?_defaults (s : Setting) : s.find? defaults = some s.default := by
  cases s <;> rfl

/-- The setting of a group, if the group has it. -/
theorem only_group {α : Type} {s : Setting} {tree value : Tree} (h : s.find? tree = some value)
    (what : String) (read : String → Tree → Found α) :
    (tree.group s.group).bind (fun group => group.only what s.group s.field read) =
      read s.key value := by
  obtain ⟨group, hgroup, hfield⟩ := Setting.exists_group_of_find? h
  rw [Tree.group, hgroup]
  cases group with
  | table origin? entries =>
    rw [Tree.entries_table] at hfield
    simp only [Except.bind, Tree.only, hfield]
    rfl
  | _ => cases hfield

/-- A tree with all settings stands for those that read them. -/
theorem ofTree_eq_ok_iff {tree : Tree} {values : Setting → Tree}
    (h : ∀ s : Setting, s.find? tree = some (values s)) {settings : Settings} :
    ofTree tree = .ok settings ↔ ∀ s : Setting, s.Reads (values s) settings := by
  have hof : ofTree tree = (do
      let requireComplete ← (values .requireComplete).toBool Setting.requireComplete.key
      let allowWhitespace ← (values .allowWhitespace).toBool Setting.allowWhitespace.key
      let format ← (values .format).toFormat
      return ⟨⟨requireComplete⟩, ⟨allowWhitespace⟩, ⟨format⟩⟩) := by
    rw [← only_group (h .requireComplete) "DriverOptions" Tree.toBool,
      ← only_group (h .allowWhitespace) "CalcOptions" Tree.toBool,
      ← only_group (h .format) "OutputOptions" fun _ tree => tree.toFormat]
    simp only [ofTree, ← bind_assoc]
    rfl
  have hall : (∀ s : Setting, s.Reads (values s) settings) ↔
      Setting.requireComplete.Reads (values .requireComplete) settings ∧
      Setting.allowWhitespace.Reads (values .allowWhitespace) settings ∧
      Setting.format.Reads (values .format) settings :=
    ⟨fun h => ⟨h _, h _, h _⟩, fun ⟨h₁, h₂, h₃⟩ s => by cases s <;> assumption⟩
  obtain ⟨⟨requireComplete⟩, ⟨allowWhitespace⟩, ⟨format⟩⟩ := settings
  rw [hall, hof]
  simp only [Setting.Reads]
  cases (values .requireComplete).toBool Setting.requireComplete.key <;>
    cases (values .allowWhitespace).toBool Setting.allowWhitespace.key <;>
    cases (values .format).toFormat <;> simp [bind, Except.bind, pure, Except.pure]

/-- Settings are read one by one. -/
theorem exists_reads_iff {values : Setting → Tree} :
    (∃ settings, ∀ s : Setting, s.Reads (values s) settings) ↔
      ∀ s : Setting, ∃ settings, s.Reads (values s) settings := by
  refine ⟨fun ⟨settings, h⟩ s => ⟨settings, h s⟩, fun h => ?_⟩
  obtain ⟨reading, hr⟩ := h .requireComplete
  obtain ⟨calculating, hc⟩ := h .allowWhitespace
  obtain ⟨printing, hp⟩ := h .format
  refine ⟨⟨reading.reader, calculating.calculator, printing.output⟩, fun s => ?_⟩
  cases s
  exacts [hr, hc, hp]

/-! ## The main theorem -/

section
variable {files : Files} {calls : List Call}

/-- The value that a setting has after the calls. -/
theorem resolve_definitionsOf (s : Setting) {loader : Loader} (h : loader.Keeps calls) :
    s.resolve (s.definitionsOf files calls) =
      (s.default.defineAll
        (loader.files.flatMap fun layer => s.definitionsAt files layer.name)).defineAll
        ((overridesOf s loader.overrides).map ([], ·)) := by
  rw [Setting.definitionsOf, h.overrides_eq, ← h.files_eq]
  have hfiles := s.resolve_reverse_append
    (loader.files.flatMap fun layer => s.definitionsAt files layer.name) []
  rw [List.append_nil, Setting.resolve] at hfiles
  cases (calls.filterMap (Call.value? s)).getLast? with
  | none => simpa [Tree.defineAll] using hfiles
  | some value =>
    rw [Option.map_some, Option.toList_some, List.singleton_append, Setting.resolve_cons, hfiles]
    rfl

theorem mem_layers_iff {name : String} :
    (⟨name, true⟩ : FileLayer) ∈ calls.filterMap Call.layer? ↔ .file name ∈ calls := by
  rw [List.mem_filterMap]
  constructor
  · rintro ⟨call, hmem, hcall⟩
    cases call <;> simp_all [Call.layer?]
  · exact fun hmem => ⟨_, hmem, rfl⟩

/-- The tree of all layers has each setting as its definitions make it. -/
theorem exists_tree {loader : Loader} (hkeeps : loader.Keeps calls)
    (h : ReadsGroups files (calls.filterMap Call.layer?))
    (hpresent : ∀ name, .file name ∈ calls → locate files name ≠ none) :
    ∃ tree, loader.tree files = .ok tree ∧
      ∀ s : Setting, s.find? tree = some (s.resolve (s.definitionsOf files calls)) := by
  rw [← hkeeps.files_eq] at h
  have hrequired : ∀ layer ∈ loader.files, layer.required = true →
      locate files layer.name ≠ none := by
    rintro ⟨name, _⟩ hmem rfl
    rw [hkeeps.files_eq, mem_layers_iff] at hmem
    exact hpresent name hmem
  obtain ⟨tree, htree, hfind⟩ := exists_layFiles defaults h hrequired
  refine ⟨_, by rw [Loader.tree, htree]; rfl, fun s => ?_⟩
  rw [resolve_definitionsOf s hkeeps]
  exact find?_overrides (hfind s _ (find?_defaults s)) hkeeps.paths

theorem exists_tree_error {loader : Loader} (hkeeps : loader.Keeps calls) {name : String}
    (hmem : .file name ∈ calls) (hmissing : locate files name = none) :
    ∃ error, loader.tree files = .error error := by
  rw [← mem_layers_iff, ← hkeeps.files_eq] at hmem
  obtain ⟨error, herror⟩ := exists_error_of_missing defaults hmem rfl hmissing
  exact ⟨error, by rw [Loader.tree, herror]; rfl⟩

/-- After any calls, the settings are those that read the values of their definitions, and there
are some just if no required file is missing and all of the values can be read. -/
theorem build_after_calls (files : Files) (calls : List Call)
    (h : ReadsGroups files (calls.filterMap Call.layer?)) :
    ∃ loader, ofCalls calls = .ok loader ∧
      (∀ settings, loader.build files = .ok settings ↔
        (∀ name, .file name ∈ calls → locate files name ≠ none) ∧
        ∀ s : Setting, s.Reads (s.resolve (s.definitionsOf files calls)) settings) ∧
      ((∃ error, loader.build files = .error error) ↔
        (∃ name, .file name ∈ calls ∧ locate files name = none) ∨
          ∃ s : Setting, ∀ settings,
            ¬ s.Reads (s.resolve (s.definitionsOf files calls)) settings) := by
  obtain ⟨loader, hloader, hkeeps⟩ := exists_ofCalls calls
  refine ⟨loader, hloader, ?_⟩
  by_cases hpresent : ∀ name, Call.file name ∈ calls → locate files name ≠ none
  · obtain ⟨tree, htree, hfind⟩ := exists_tree hkeeps h hpresent
    have hbuild : loader.build files = ofTree tree := by rw [build, htree]; rfl
    have hok := fun settings => @ofTree_eq_ok_iff tree _ hfind settings
    rw [hbuild]
    refine ⟨fun settings => by rw [hok, and_iff_right hpresent], ?_⟩
    have hmissing : ¬ ∃ name, Call.file name ∈ calls ∧ locate files name = none :=
      fun ⟨name, hmem, hmissing⟩ => hpresent name hmem hmissing
    have herror : (∃ error, ofTree tree = .error error) ↔
        ¬ ∃ settings, ofTree tree = .ok settings := by
      cases ofTree tree <;> simp
    simp only [herror, hok, exists_reads_iff, hmissing, false_or, not_forall, not_exists]
  · obtain ⟨name, hmem, hmissing⟩ : ∃ name, Call.file name ∈ calls ∧ locate files name = none := by
      simpa using hpresent
    obtain ⟨error, herror⟩ := exists_tree_error hkeeps hmem hmissing
    have hbuild : loader.build files = .error error := by rw [build, herror]; rfl
    rw [hbuild]
    refine ⟨fun settings => iff_of_false nofun fun h => h.1 name hmem hmissing, ?_⟩
    exact iff_of_true ⟨error, rfl⟩ (.inl ⟨name, hmem, hmissing⟩)

end

/-! ## Files of one group -/

theorem pathOf_group (s : Setting) : pathOf s.group = [.key s.group] := by
  cases s <;> decide +kernel

/-- A file with the table of one group, and nothing else. -/
theorem groupsAreTables_singleton (s : Setting) (origin? : Option String)
    (entries : List (String × Tree)) : GroupsAreTables [(s.group, .table origin? entries)] := by
  intro name value hmem s' key path hpath _
  obtain ⟨rfl, rfl⟩ : name = s.group ∧ value = .table origin? entries := by simpa using hmem
  obtain ⟨-, rfl⟩ : PathStep.key s.group = .key key ∧ [] = path := by
    simpa using (pathOf_group s).symm.trans hpath
  exact ⟨fun _ => ⟨origin?, entries, rfl⟩, nofun⟩

/-- The document is the table of the group, and nothing else. -/
def isGroup (s : Setting) : Option (List (String × Toml.Value)) → Bool
  | some [(name, .table _)] => name == s.group
  | _ => false

/-- The file is there and has the table of one group. -/
theorem reads_of_locate {files : Files} {name place text : String} (s : Setting)
    (hl : locate files name = some (place, text))
    (hr : isGroup s (Toml.read? (Toml.withoutMark text.toList)) = true) :
    ∃ entries, entriesAt? files name = some entries ∧ GroupsAreTables entries := by
  unfold isGroup at hr
  split at hr
  · rename_i group inner hread
    obtain rfl : group = s.group := by simpa using hr
    refine ⟨entriesOfToml place [(s.group, .table inner)], ?_,
      groupsAreTables_singleton s (some place) (entriesOfToml place inner)⟩
    simp [entriesAt?, hl, hread]
  · cases hr

def readerText : String := "[driver]\nrequire_complete = false\n"

def blanksText : String := "[calc]\nallow_whitespace = true\n"

/-- Two files, each with one of the settings. -/
def shared : Files := fun place =>
  [("reader.toml", readerText), ("blanks.toml", blanksText)].lookup place

/-- A format that is set before two files are laid over the defaults, and one that is missing. -/
def sharing : List Call :=
  [.override .format (Scalar.str "yaml"), .file "reader.toml", .optionalFile "missing.toml",
    .file "blanks.toml"]

theorem readsGroups_sharing : ReadsGroups shared (sharing.filterMap Call.layer?) := by
  have hreader : locate shared "reader.toml" = some ("reader.toml", readerText) := by
    decide +kernel
  have hmissing : locate shared "missing.toml" = none := by decide +kernel
  have hblanks : locate shared "blanks.toml" = some ("blanks.toml", blanksText) := by
    decide +kernel
  have hlayers : sharing.filterMap Call.layer? =
      [⟨"reader.toml", true⟩, ⟨"missing.toml", false⟩, ⟨"blanks.toml", true⟩] := rfl
  simp only [hlayers, ReadsGroups, List.forall_mem_cons, List.not_mem_nil, false_imp_iff,
    implies_true, and_true]
  exact ⟨fun _ => reads_of_locate .requireComplete hreader (by decide +kernel),
    fun h => absurd hmissing h, fun _ => reads_of_locate .allowWhitespace hblanks (by decide +kernel)⟩

theorem build_after_sharing :
    ∃ loader, ofCalls sharing = .ok loader ∧
      loader.build shared = .ok ⟨⟨false⟩, ⟨true⟩, ⟨.yaml⟩⟩ := by
  obtain ⟨loader, hloader, hok, -⟩ := build_after_calls shared sharing readsGroups_sharing
  refine ⟨loader, hloader, (hok _).2 ⟨fun name hmem => ?_, fun s => ?_⟩⟩
  · obtain rfl | rfl : name = "reader.toml" ∨ name = "blanks.toml" := by
      simpa [sharing] using hmem
    · decide +kernel
    · decide +kernel
  · cases s <;> unfold Setting.Reads <;> decide +kernel

/-! ## Tables do not replace -/

def yamlText : String := "[output.format]\nyaml = 1\n"

def jsonText : String := "[output.format]\njson = 1\n"

/-- Two files, each with a table for the format. -/
def clashing : Files := fun place =>
  [("layer0.toml", yamlText), ("layer1.toml", jsonText)].lookup place

/-- Both files are laid over the defaults. -/
def clash : List Call := [.file "layer0.toml", .file "layer1.toml"]

/-- The topmost definition of each setting can be read, but a table does not take the place of the
one below it: the format has two names, and there are no settings. -/
theorem tables_are_merged :
    ReadsGroups clashing (clash.filterMap Call.layer?) ∧
      (∀ name, .file name ∈ clash → locate clashing name ≠ none) ∧
      (∀ s : Setting,
        s.Reads (s.topmost (s.definitionsOf clashing clash)) ⟨⟨true⟩, ⟨false⟩, ⟨.json⟩⟩) ∧
      ∃ loader, ofCalls clash = .ok loader ∧
        loader.build clashing = .error (.malformed ("value of enum OutputFormat should be " ++
          "represented by either string or table with exactly one key")) := by
  have hlower : locate clashing "layer0.toml" = some ("layer0.toml", yamlText) := by
    decide +kernel
  have hupper : locate clashing "layer1.toml" = some ("layer1.toml", jsonText) := by
    decide +kernel
  refine ⟨?_, fun name hmem => ?_, fun s => ?_, _, rfl, ?_⟩
  · have hlayers : clash.filterMap Call.layer? =
        [⟨"layer0.toml", true⟩, ⟨"layer1.toml", true⟩] := rfl
    simp only [hlayers, ReadsGroups, List.forall_mem_cons, List.not_mem_nil, false_imp_iff,
      implies_true, and_true]
    exact ⟨fun _ => reads_of_locate .format hlower (by decide +kernel),
      fun _ => reads_of_locate .format hupper (by decide +kernel)⟩
  · obtain rfl | rfl : name = "layer0.toml" ∨ name = "layer1.toml" := by
      simpa [clash] using hmem
    · simp [hlower]
    · simp [hupper]
  · cases s <;> unfold Setting.Reads <;> decide +kernel
  · decide +kernel

end Loader

end Descent.Settings
