import Descent.Settings.Basic

/-!
# Values under keys

What stands under a key of a tree after a value has been put there or elsewhere. A path that starts
with a key changes what stands under that key in lower case, by `Tree.define`, and nothing else
(`Tree.lookup_put`). A table is laid over what is there entry by entry (`Tree.lookup_mergeAll`).
-/

namespace Descent.Settings.Tree

/-- What a value makes of the one below it: a table is merged into it, all else takes its place. -/
def laidOver (below? : Option Tree) : Tree → Tree
  | table _ incoming => mergeAll incoming (below?.getD emptyTable)
  | value => value

/-- What a value at the end of a path makes of what is below it. -/
def define (below? : Option Tree) : Path → Tree → Tree
  | [], value => value.laidOver below?
  | path, value => (below?.getD unset).put path value

theorem define_cons (below? : Option Tree) (step : PathStep) (path : Path) (value : Tree) :
    define below? (step :: path) value = (below?.getD unset).put (step :: path) value := rfl

theorem lookup_entry (name key : String) (value : Tree) (entries : List (String × Tree)) :
    ((name, value) :: entries).lookup key =
      if key = name then some value else entries.lookup key := by
  rw [List.lookup_cons]
  by_cases hkey : key = name
  · simp [hkey]
  · simp [hkey, beq_eq_false_iff_ne.2 hkey]

theorem lookup_putEntry (name key : String) (value : Tree) (entries : List (String × Tree)) :
    (putEntry name value entries).lookup key =
      if key = name then some value else entries.lookup key := by
  induction entries with
  | nil => rw [putEntry, lookup_entry]
  | cons entry entries ih =>
    obtain ⟨k, v⟩ := entry
    rw [putEntry]
    split
    · rename_i hk
      subst hk
      simp only [lookup_entry]
      split <;> rfl
    · rename_i hk
      simp only [lookup_entry, ih]
      by_cases hkey : key = k
      · subst hkey
        simp [hk]
      · simp [hkey]

@[simp] theorem entries_table (origin? : Option String) (entries : List (String × Tree)) :
    (table origin? entries).entries = entries := rfl

/-- Only what stands under the key is changed. -/
theorem lookup_atKey (name key : String) (change : Option Tree → Tree) (tree : Tree) :
    (tree.atKey name change).entries.lookup key =
      if key = name then some (change (tree.entries.lookup name))
      else tree.entries.lookup key := by
  cases tree with
  | table origin? inner => rw [atKey, entries_table, lookup_putEntry, entries_table]
  | _ => exact lookup_entry _ _ _ _

theorem merge_eq_atKey (name : String) (value tree : Tree) :
    merge name value tree = tree.atKey (Text.lower name) fun old? => value.laidOver old? := by
  cases value <;> simp [merge, laidOver]

/-- A path that starts with a key changes what stands under it. -/
theorem put_key_eq_atKey (name : String) (path : Path) (value tree : Tree) :
    tree.put (.key name :: path) value =
      tree.atKey (Text.lower name) fun old? => define old? path value := by
  cases path with
  | nil => rw [put, merge_eq_atKey]; rfl
  | cons step path => simp [put, define]

theorem lookup_put (name key : String) (path : Path) (value tree : Tree) :
    (tree.put (.key name :: path) value).entries.lookup key =
      if key = Text.lower name then some (define (tree.entries.lookup key) path value)
      else tree.entries.lookup key := by
  rw [put_key_eq_atKey, lookup_atKey]
  split
  · rename_i hkey
    rw [hkey]
  · rfl

/-- The values under a key, in any case, one after the other. -/
def valuesUnder (key : String) (entries : List (String × Tree)) : List Tree :=
  entries.filterMap fun entry => if Text.lower entry.1 = key then some entry.2 else none

/-- Under a key, a table is laid over what is there value by value. -/
theorem lookup_mergeAll (key : String) (incoming : List (String × Tree)) (tree : Tree) :
    (mergeAll incoming tree).entries.lookup key =
      (valuesUnder key incoming).foldl (fun below? value => some (value.laidOver below?))
        (tree.entries.lookup key) := by
  induction incoming generalizing tree with
  | nil => simp [mergeAll, valuesUnder]
  | cons entry incoming ih =>
    obtain ⟨name, value⟩ := entry
    rw [mergeAll, ih, merge_eq_atKey, lookup_atKey]
    by_cases hkey : Text.lower name = key
    · subst hkey
      simp [valuesUnder]
    · simp [valuesUnder, hkey, Ne.symm hkey]

end Descent.Settings.Tree
