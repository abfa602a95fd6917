import Descent.Parser.Ownership
import Mathlib.Data.Finset.Card
import Mathlib.Data.Finset.Image

/-!
# What is owned

`Store.reachable` finds just what the parsers own (`mem_reachable_iff`): what they mention, and what
anything owned leads to. The search is bounded, and its bound is never met: the cells and slots that
have not been found (`Store.missing`) become fewer with each step down.
-/

namespace Descent

namespace Store

/-- The parsers own a cell or a slot. -/
inductive Owns (store : Store) (roots : List Parser) : Owned → Prop
  | root {x : Owned} : x ∈ Parser.ownsAll roots → Owns store roots x
  | step {x y : Owned} : Owns store roots x → y ∈ store.ownedBy x → Owns store roots y

/-! ## The search -/

/-- The cells and slots of the store. -/
def places (store : Store) : Finset Owned :=
  (Finset.range store.cells.size).image .cell ∪ (Finset.range store.slots.size).image .slot

/-- The cells and slots that have not been found. -/
def missing (store : Store) (found : List Owned) : Finset Owned :=
  store.places.filter (· ∉ found)

theorem card_missing_nil_le (store : Store) :
    (store.missing []).card ≤ store.cells.size + store.slots.size := by
  have h₁ := Finset.card_union_le ((Finset.range store.cells.size).image Owned.cell)
    ((Finset.range store.slots.size).image Owned.slot)
  have h₂ := Finset.card_image_le (s := Finset.range store.cells.size) (f := Owned.cell)
  have h₃ := Finset.card_image_le (s := Finset.range store.slots.size) (f := Owned.slot)
  have h₄ : (store.missing []).card ≤ store.places.card := Finset.card_filter_le _ _
  simp only [Finset.card_range] at h₂ h₃
  unfold places at h₄
  omega

/-- What is no place of the store leads nowhere. -/
theorem ownedBy_eq_nil {store : Store} {x : Owned} (h : x ∉ store.places) :
    store.ownedBy x = [] := by
  simp only [places, Finset.mem_union, Finset.mem_image, Finset.mem_range, not_or, not_exists,
    not_and] at h
  cases x with
  | cell i =>
    have hi : store.cells[i]? = none := by
      rw [Array.getElem?_eq_none_iff, ← Nat.not_lt]
      exact fun hi => h.1 i hi rfl
    simp [ownedBy, hi]
  | slot j =>
    have hj : store.slots[j]? = none := by
      rw [Array.getElem?_eq_none_iff, ← Nat.not_lt]
      exact fun hj => h.2 j hj rfl
    simp [ownedBy, hj]

theorem card_missing_mono {store : Store} {found found' : List Owned} (h : found ⊆ found') :
    (store.missing found').card ≤ (store.missing found).card := by
  refine Finset.card_le_card fun x hx => ?_
  simp only [missing, Finset.mem_filter] at hx ⊢
  exact ⟨hx.1, fun hf => hx.2 (h hf)⟩

theorem card_missing_cons_lt {store : Store} {found : List Owned} {x : Owned}
    (hx : x ∈ store.places) (hf : x ∉ found) :
    (store.missing (x :: found)).card < (store.missing found).card := by
  refine Finset.card_lt_card ⟨fun y hy => ?_, fun h => ?_⟩
  · simp only [missing, Finset.mem_filter, List.mem_cons, not_or] at hy ⊢
    exact ⟨hy.1, hy.2.2⟩
  · have := h (Finset.mem_filter.2 ⟨hx, hf⟩)
    simp [missing] at this

/-- From `found` the search has come to `found'`, and behind all that is new there is nothing that
it has not found. -/
structure Searched (store : Store) (found found' : List Owned) : Prop where
  subset : found ⊆ found'
  closed : ∀ y ∈ found', y ∉ found → ∀ z ∈ store.ownedBy y, z ∈ found'

theorem Searched.refl (store : Store) (found : List Owned) : store.Searched found found :=
  ⟨List.Subset.refl _, fun _ hy hn => absurd hy hn⟩

theorem Searched.trans {store : Store} {a b c : List Owned} (h : store.Searched a b)
    (h' : store.Searched b c) : store.Searched a c := by
  refine ⟨List.Subset.trans h.subset h'.subset, fun y hy hn z hz => ?_⟩
  by_cases hb : y ∈ b
  · exact h'.subset (h.closed y hb hn z hz)
  · exact h'.closed y hy hb z hz

section
variable {store : Store}

/-- Searching several places in turn. -/
theorem searched_foldl {search : List Owned → Owned → List Owned} {n : Nat}
    (h : ∀ found x, (store.missing found).card < n →
      store.Searched found (search found x) ∧ x ∈ search found x)
    (xs : List Owned) (found : List Owned) (hn : (store.missing found).card < n) :
    store.Searched found (xs.foldl search found) ∧ xs ⊆ xs.foldl search found := by
  induction xs generalizing found with
  | nil => exact ⟨.refl store found, List.nil_subset _⟩
  | cons x xs ih =>
    obtain ⟨hs, hx⟩ := h found x hn
    obtain ⟨hs', hxs⟩ := ih (search found x)
      (Nat.lt_of_le_of_lt (card_missing_mono hs.subset) hn)
    exact ⟨hs.trans hs', List.cons_subset.2 ⟨hs'.subset hx, hxs⟩⟩

theorem searched_reach (depth : Nat) (found : List Owned) (x : Owned)
    (hd : (store.missing found).card < depth) :
    store.Searched found (store.reach depth found x) ∧ x ∈ store.reach depth found x := by
  induction depth generalizing found x with
  | zero => exact absurd hd (Nat.not_lt_zero _)
  | succ depth ih =>
    rw [reach]
    split
    · rename_i hx
      exact ⟨.refl store found, List.contains_iff_mem.1 hx⟩
    · rename_i hx
      rw [List.contains_iff_mem] at hx
      have step : store.Searched (x :: found)
            ((store.ownedBy x).foldl (store.reach depth) (x :: found)) ∧
          store.ownedBy x ⊆ (store.ownedBy x).foldl (store.reach depth) (x :: found) := by
        by_cases hp : x ∈ store.places
        · have := card_missing_cons_lt hp hx
          exact searched_foldl ih _ _ (by omega)
        · rw [ownedBy_eq_nil hp]
          exact ⟨.refl store _, List.nil_subset _⟩
      obtain ⟨hs, hsub⟩ := step
      refine ⟨⟨List.Subset.trans (List.subset_cons_self x found) hs.subset, fun y hy hn z hz => ?_⟩,
        hs.subset List.mem_cons_self⟩
      by_cases hyx : y = x
      · subst hyx
        exact hsub hz
      · exact hs.closed y hy (by simp [hyx, hn]) z hz

theorem owns_foldl {roots : List Parser} {search : List Owned → Owned → List Owned}
    (h : ∀ found x, (∀ y ∈ found, store.Owns roots y) → store.Owns roots x →
      ∀ y ∈ search found x, store.Owns roots y)
    (xs : List Owned) (hx : ∀ x ∈ xs, store.Owns roots x) (found : List Owned)
    (hf : ∀ y ∈ found, store.Owns roots y) :
    ∀ y ∈ xs.foldl search found, store.Owns roots y := by
  induction xs generalizing found with
  | nil => exact hf
  | cons x xs ih =>
    rw [List.forall_mem_cons] at hx
    exact ih hx.2 _ (h found x hf hx.1)

/-- The search finds only what is owned. -/
theorem owns_of_mem_reach {roots : List Parser} (depth : Nat) (found : List Owned) (x : Owned)
    (hf : ∀ y ∈ found, store.Owns roots y) (hx : store.Owns roots x) :
    ∀ y ∈ store.reach depth found x, store.Owns roots y := by
  induction depth generalizing found x with
  | zero => exact hf
  | succ depth ih =>
    rw [reach]
    split
    · exact hf
    · exact owns_foldl ih _ (fun y hy => .step hx hy) _ (List.forall_mem_cons.2 ⟨hx, hf⟩)

/-- The search finds just what the parsers own. -/
theorem mem_reachable_iff {roots : List Parser} {x : Owned} :
    x ∈ store.reachable roots ↔ store.Owns roots x := by
  have hn := store.card_missing_nil_le
  obtain ⟨hs, hr⟩ := searched_foldl
    (@searched_reach store (store.cells.size + store.slots.size + 1))
    (Parser.ownsAll roots) [] (by omega)
  constructor
  · exact owns_foldl (owns_of_mem_reach _) _ (fun _ => .root) [] (fun _ hy => nomatch hy) x
  · intro h
    induction h with
    | root hx => exact hr hx
    | step _ hy ih => exact hs.closed _ ih (List.not_mem_nil) _ hy

/-- A rule stays where the parsers own it, and is gone elsewhere. -/
theorem slots_collect (roots : List Parser) (store : Store) (j : Nat) :
    (store.Owns roots (.slot j) → (store.collect roots).slots[j]? = store.slots[j]?) ∧
      (¬ store.Owns roots (.slot j) →
        (store.collect roots).slots[j]? = store.slots[j]?.map fun _ => .released) := by
  rw [← mem_reachable_iff]
  constructor <;> intro h
  · cases hj : store.slots[j]? <;> simp [collect, hj, h]
  · cases hj : store.slots[j]? <;> simp [collect, hj, h]

@[simp] theorem cells_collect (roots : List Parser) (store : Store) :
    (store.collect roots).cells = store.cells := rfl

@[simp] theorem tracker_collect (roots : List Parser) (store : Store) :
    (store.collect roots).tracker = store.tracker := rfl

@[simp] theorem size_slots_collect (roots : List Parser) (store : Store) :
    (store.collect roots).slots.size = store.slots.size := by
  simp [collect]

end

end Store

end Descent
