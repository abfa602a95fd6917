import Descent.Proofs.Meaning.Legend
import Descent.Proofs.Parser.Ownership

/-!
# Collecting keeps the meaning

When the rules that nobody owns are released, the parsers that are still there keep their meaning
(`Sound.collect`). The reason is that a handle stands only within the body of its rule, and that
what is owned was made within the bodies of rules that are owned as well
(`Sound.exists_entry_of_owns`).
-/

namespace Descent

namespace Legend

/-- What the legend says about a cell or a slot. -/
def entry? (L : Legend) : Owned → Option (Option Entry)
  | .cell i => L.cells[i]?
  | .slot j => L.slots[j]?

/-- The legend without all but some cells and slots. -/
def restrict (L : Legend) (found : List Owned) : Legend where
  slots := L.slots.mapIdx fun j e => if found.contains (.slot j) then e else none
  cells := L.cells.mapIdx fun i e => if found.contains (.cell i) then e else none

theorem slots_restrict_iff {L : Legend} {found : List Owned} {j : Nat} {e : Entry} :
    (L.restrict found).slots[j]? = some (some e) ↔
      L.slots[j]? = some (some e) ∧ .slot j ∈ found := by
  simp only [restrict, List.getElem?_mapIdx, Option.map_eq_some_iff, List.contains_iff_mem]
  constructor
  · rintro ⟨e', hj, h⟩
    split at h
    · rename_i hf
      exact ⟨by rw [hj, h], hf⟩
    · cases h
  · rintro ⟨hj, hf⟩
    exact ⟨some e, hj, if_pos hf⟩

theorem cells_restrict_iff {L : Legend} {found : List Owned} {i : Nat} {e : Entry} :
    (L.restrict found).cells[i]? = some (some e) ↔
      L.cells[i]? = some (some e) ∧ .cell i ∈ found := by
  simp only [restrict, List.getElem?_mapIdx, Option.map_eq_some_iff, List.contains_iff_mem]
  constructor
  · rintro ⟨e', hi, h⟩
    split at h
    · rename_i hf
      exact ⟨by rw [hi, h], hf⟩
    · cases h
  · rintro ⟨hi, hf⟩
    exact ⟨some e, hi, if_pos hf⟩

end Legend

/-! ## What parsers mention -/

theorem Parser.mem_ownsAll_iff {ps : List Parser} {x : Owned} :
    x ∈ ownsAll ps ↔ ∃ p ∈ ps, x ∈ p.owns := by
  induction ps with
  | nil => simp [ownsAll]
  | cons p ps ih => simp [ownsAll, ih]

theorem Parser.owns_subset_ownsAll {ps : List Parser} {i : Nat} {p : Parser}
    (h : ps[i]? = some p) : p.owns ⊆ ownsAll ps :=
  fun _ hx => mem_ownsAll_iff.2 ⟨p, List.mem_of_getElem? h, hx⟩

section
variable {rules : Rules} {L : Legend} {E : List Nat} {p : Parser} {c : Closure} {found : List Owned}

/-- What a parser mentions was made within the bodies that the parser was made within. -/
theorem Built.exists_entry_of_mem_owns (h : Built rules L E p c) {x : Owned} (hx : x ∈ p.owns) :
    ∃ e, L.entry? x = some (some e) ∧ e.within ⊆ E := by
  induction h with
  | literal | charClass | pattern | custom | handle | dangles => cases hx
  | @sequence c gs ps _ hl _ ih | @choice c gs ps _ hl _ ih =>
    obtain ⟨p, hp, hx⟩ := Parser.mem_ownsAll_iff.1 hx
    obtain ⟨i, hi, rfl⟩ := List.mem_iff_getElem.1 hp
    exact ih i _ gs[i] (List.getElem?_eq_getElem hi) (List.getElem?_eq_getElem (hl ▸ hi)) hx
  | many _ _ ih | optional _ _ ih | transform _ _ ih | tryTransform _ _ ih | tag _ _ ih
  | guarded _ _ ih | labelled _ _ ih => exact ih hx
  | @deferred i e hi hw =>
    obtain rfl : x = .cell i := List.mem_singleton.1 hx
    exact ⟨e, hi, hw⟩
  | @rule j e hj hw =>
    obtain rfl : x = .slot j := List.mem_singleton.1 hx
    exact ⟨e, hj, hw⟩
  | means _ _ ih => exact ih hx

theorem Filled.exists_entry_of_mem_owns (h : Filled rules L E p c) {x : Owned} (hx : x ∈ p.owns) :
    ∃ e, L.entry? x = some (some e) ∧ e.within ⊆ E :=
  h.built.exists_entry_of_mem_owns hx

/-- A parser keeps its meaning where all is kept that it mentions, and the rules around it. -/
theorem Built.restrict (h : Built rules L E p c) (hp : p.owns ⊆ found)
    (hE : ∀ j ∈ E, .slot j ∈ found) : Built rules (L.restrict found) E p c := by
  induction h with
  | literal hg => exact .literal hg
  | charClass hg => exact .charClass hg
  | pattern hg hq => exact .pattern hg hq
  | custom hg => exact .custom hg
  | sequence hg hl _ ih =>
    exact .sequence hg hl fun i p g hi hgi =>
      ih i p g hi hgi (List.Subset.trans (Parser.owns_subset_ownsAll hi) hp)
  | choice hg hl _ ih =>
    exact .choice hg hl fun i p g hi hgi =>
      ih i p g hi hgi (List.Subset.trans (Parser.owns_subset_ownsAll hi) hp)
  | many hg _ ih => exact .many hg (ih hp)
  | optional hg _ ih => exact .optional hg (ih hp)
  | transform hg _ ih => exact .transform hg (ih hp)
  | tryTransform hg _ ih => exact .tryTransform hg (ih hp)
  | tag hg _ ih => exact .tag hg (ih hp)
  | guarded hg _ ih => exact .guarded hg (ih hp)
  | labelled hg _ ih => exact .labelled hg (ih hp)
  | deferred hi hw =>
    exact .deferred (Legend.cells_restrict_iff.2 ⟨hi, hp (List.mem_singleton.2 rfl)⟩) hw
  | rule hj hw => exact .rule (Legend.slots_restrict_iff.2 ⟨hj, hp (List.mem_singleton.2 rfl)⟩) hw
  | handle hj hm => exact .handle (Legend.slots_restrict_iff.2 ⟨hj, hE _ hm⟩) hm
  | means hm _ ih => exact .means hm (ih hp)
  | dangles hd => exact .dangles hd

theorem Filled.restrict (h : Filled rules L E p c) (hp : p.owns ⊆ found)
    (hE : ∀ j ∈ E, .slot j ∈ found) : Filled rules (L.restrict found) E p c := by
  cases h with
  | means hm hb => exact .means hm (hb.restrict hp hE)
  | dangles hd => exact .dangles hd

theorem ScopeBuilt.exists_built {scope : Scope} {ρ : List (String × Closure)}
    (h : ScopeBuilt rules L E scope ρ) {q : Parser} (hq : q ∈ scope.map Prod.snd) :
    ∃ c, Built rules L E q c := by
  induction h with
  | nil => cases hq
  | cons hab _ ih =>
    rcases List.mem_cons.1 hq with rfl | hq
    · exact ⟨_, hab.2⟩
    · exact ih hq

theorem ScopeBuilt.restrict {scope : Scope} {ρ : List (String × Closure)}
    (h : ScopeBuilt rules L E scope ρ) (hp : Parser.ownsAll (scope.map Prod.snd) ⊆ found)
    (hE : ∀ j ∈ E, .slot j ∈ found) : ScopeBuilt rules (L.restrict found) E scope ρ := by
  induction h with
  | nil => exact .nil
  | cons hab _ ih =>
    rw [List.map_cons, Parser.ownsAll, List.append_subset] at hp
    exact .cons ⟨hab.1, hab.2.restrict hp.1 hE⟩ (ih hp.2)

end

/-! ## Collecting -/

section
variable {rules : Rules} {L : Legend} {store : Store} {roots : List Parser}
  (hs : Sound rules [] L store) (hr : ∀ p ∈ roots, ∃ c, Built rules L [] p c)
include hs hr

/-- What is owned was made within the bodies of rules that are owned. -/
theorem Sound.exists_entry_of_owns {x : Owned} (hx : store.Owns roots x) :
    ∃ e, L.entry? x = some (some e) ∧ ∀ j ∈ e.within, store.Owns roots (.slot j) := by
  induction hx with
  | root hx =>
    obtain ⟨p, hp, hx⟩ := Parser.mem_ownsAll_iff.1 hx
    obtain ⟨c, hb⟩ := hr p hp
    obtain ⟨e, he, hw⟩ := hb.exists_entry_of_mem_owns hx
    exact ⟨e, he, fun j hj => nomatch hw hj⟩
  | @step y x hy hx ih =>
    obtain ⟨e, he, hw⟩ := ih
    cases y with
    | slot j =>
      obtain ⟨p, hp, hf⟩ := hs.slot j e he (List.not_mem_nil)
      simp only [Store.ownedBy, hp] at hx
      obtain ⟨e', he', hw'⟩ := hf.exists_entry_of_mem_owns hx
      refine ⟨e', he', fun k hk => ?_⟩
      rcases List.mem_cons.1 (hw' hk) with rfl | hk
      · exact hy
      · exact hw k hk
    | cell i =>
      obtain ⟨cell, hc, hcs⟩ := hs.cell i e he
      simp only [Store.ownedBy, hc] at hx
      obtain ⟨p, hp, hx⟩ := Parser.mem_ownsAll_iff.1 hx
      have hb : ∃ c, Built rules L e.within p c := by
        rcases List.mem_append.1 hp with hp | hp
        · exact ⟨_, (hcs.parser p (Option.mem_toList.1 hp)).built⟩
        · exact hcs.scope.exists_built hp
      obtain ⟨c, hb⟩ := hb
      obtain ⟨e', he', hw'⟩ := hb.exists_entry_of_mem_owns hx
      exact ⟨e', he', fun k hk => hw k (hw' hk)⟩

/-- Releasing what nobody owns leaves a sound store. -/
theorem Sound.collect :
    Sound rules [] (L.restrict (store.reachable roots)) (store.collect roots) := by
  have hown : ∀ x, x ∈ store.reachable roots → store.Owns roots x :=
    fun _ => Store.mem_reachable_iff.1
  have hmem : ∀ x, store.Owns roots x → x ∈ store.reachable roots :=
    fun _ => Store.mem_reachable_iff.2
  refine ⟨by simp [Legend.restrict, hs.slots_length], by simp [Legend.restrict, hs.cells_length],
    fun j e hj _ => ?_, fun i e hi => ?_⟩
  · obtain ⟨hj, hf⟩ := Legend.slots_restrict_iff.1 hj
    obtain ⟨p, hp, hfill⟩ := hs.slot j e hj (List.not_mem_nil)
    obtain ⟨e', he', hw⟩ := hs.exists_entry_of_owns hr (hown _ hf)
    obtain rfl : e = e' := by rw [Legend.entry?, hj] at he'; cases he'; rfl
    have hkept : (store.collect roots).slots[j]? = some (.installed p) := by
      rw [(store.slots_collect roots j).1 (hown _ hf), hp]
    -- what the body of a rule that is owned mentions is owned, and so are the rules around it
    refine ⟨p, hkept, hfill.restrict ?_ ?_⟩
    · intro x hx
      exact hmem x (.step (hown _ hf) (by simpa only [Store.ownedBy, hp] using hx))
    · intro k hk
      rcases List.mem_cons.1 hk with rfl | hk
      · exact hf
      · exact hmem _ (hw k hk)
  · obtain ⟨hi, hf⟩ := Legend.cells_restrict_iff.1 hi
    obtain ⟨cell, hc, hcs⟩ := hs.cell i e hi
    obtain ⟨e', he', hw⟩ := hs.exists_entry_of_owns hr (hown _ hf)
    obtain rfl : e = e' := by rw [Legend.entry?, hi] at he'; cases he'; rfl
    have hE : ∀ j ∈ e.within, .slot j ∈ store.reachable roots := fun j hj => hmem _ (hw j hj)
    have hsub : Parser.ownsAll (cell.parser?.toList ++ cell.factory.scope.map Prod.snd) ⊆
        store.reachable roots := fun x hx =>
      hmem x (.step (hown _ hf) (by simpa only [Store.ownedBy, hc] using hx))
    refine ⟨cell, hc, hcs.rules_eq, hcs.closure_eq, hcs.scope.restrict ?_ hE, fun p hp =>
      (hcs.parser p hp).restrict ?_ hE⟩
    · intro x hx
      obtain ⟨q, hq, hx⟩ := Parser.mem_ownsAll_iff.1 hx
      exact hsub (Parser.mem_ownsAll_iff.2 ⟨q, List.mem_append_right _ hq, hx⟩)
    · intro x hx
      exact hsub (Parser.mem_ownsAll_iff.2 ⟨p, List.mem_append_left _ (by simp [hp]), hx⟩)

end

/-- The parsers that are still there keep their meaning. -/
theorem Built.collect {rules : Rules} {L : Legend} {p : Parser} {c : Closure}
    (h : Built rules L [] p c) {store : Store} {roots : List Parser} (hp : p ∈ roots) :
    Built rules (L.restrict (store.reachable roots)) [] p c := by
  refine h.restrict (fun x hx => ?_) (fun _ hj => nomatch hj)
  exact Store.mem_reachable_iff.2 (.root (Parser.mem_ownsAll_iff.2 ⟨p, hp, hx⟩))

end Descent
