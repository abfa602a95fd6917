import Descent.Proofs.Meaning.Derives
import Mathlib.Data.List.Forall2

/-!
# Legends

A parser names cells and slots by number. A `Legend` gives their meanings: the definition that each
cell or slot was made for, with the rules within whose bodies it was made. Numbers that nothing
refers to any more have no entry.

`Built rules L E p c`: within the bodies of the rules `E`, the parser `p` was built from `c`, if the
numbers in `p` mean what `L` says. `Sound rules O L store`: the cells and slots of the store are
what `L` says, except for the slots `O`, whose rules are still being built.
-/

namespace Descent

/-! ## Legends -/

/-- What a cell or a slot was made for. -/
structure Entry where
  closure : Closure
  /-- The slots of the rules within whose bodies it was made. -/
  within : List Nat

/-- The meanings of cells and slots by number. -/
structure Legend where
  slots : List (Option Entry)
  cells : List (Option Entry)

namespace Legend

/-- `L'` says all that `L` says. -/
structure Le (L L' : Legend) : Prop where
  slots : ∀ (j : Nat) e, L.slots[j]? = some e → L'.slots[j]? = some e
  cells : ∀ (i : Nat) e, L.cells[i]? = some e → L'.cells[i]? = some e

theorem Le.refl (L : Legend) : L.Le L := ⟨fun _ _ h => h, fun _ _ h => h⟩

theorem Le.trans {L L' L'' : Legend} (h : L.Le L') (h' : L'.Le L'') : L.Le L'' :=
  ⟨fun j e hj => h'.slots j e (h.slots j e hj), fun i e hi => h'.cells i e (h.cells i e hi)⟩

/-- The legend with the meaning of a new slot. -/
def addSlot (L : Legend) (e : Option Entry) : Legend := { L with slots := L.slots ++ [e] }

/-- The legend with the meaning of a new cell. -/
def addCell (L : Legend) (e : Option Entry) : Legend := { L with cells := L.cells ++ [e] }

theorem getElem?_append_of_some {α : Type} {l l' : List α} {i : Nat} {a : α}
    (h : l[i]? = some a) : (l ++ l')[i]? = some a := by
  rw [List.getElem?_append_left (List.getElem?_eq_some_iff.1 h).1, h]

theorem le_addSlot (L : Legend) (e : Option Entry) : L.Le (L.addSlot e) :=
  ⟨fun _ _ h => getElem?_append_of_some h, fun _ _ h => h⟩

theorem le_addCell (L : Legend) (e : Option Entry) : L.Le (L.addCell e) :=
  ⟨fun _ _ h => h, fun _ _ h => getElem?_append_of_some h⟩

end Legend

/-! ## Parsers of definitions -/

/-- The parser `p` was built from `c` within the bodies of the rules `E`. -/
inductive Built (rules : Rules) (L : Legend) (E : List Nat) : Parser → Closure → Prop
  | literal {c : Closure} {text : String} : c.grammar = .literal text →
      Built rules L E (.literal text) c
  | charClass {c : Closure} {set : String} {negate : Bool} : c.grammar = .charClass set negate →
      Built rules L E (.charClass set negate) c
  | pattern {c : Closure} {expression : String} {ignoreCase : Bool} {p : Pattern} :
      c.grammar = .pattern expression ignoreCase →
      Pattern.compile? expression ignoreCase = some p → Built rules L E (.pattern p) c
  | custom {c : Closure} {answer : List Char → Nat → Step} : c.grammar = .custom answer →
      Built rules L E (.custom answer) c
  | sequence {c : Closure} {gs : List Grammar} {ps : List Parser} : c.grammar = .sequence gs →
      ps.length = gs.length →
      (∀ (i : Nat) p g, ps[i]? = some p → gs[i]? = some g → Built rules L E p (c.inner g)) →
      Built rules L E (.sequence ps) c
  | choice {c : Closure} {gs : List Grammar} {ps : List Parser} : c.grammar = .choice gs →
      ps.length = gs.length →
      (∀ (i : Nat) p g, ps[i]? = some p → gs[i]? = some g → Built rules L E p (c.inner g)) →
      Built rules L E (.choice ps) c
  | many {c : Closure} {g : Grammar} {p : Parser} : c.grammar = .many g →
      Built rules L E p (c.inner g) → Built rules L E (.many p) c
  | optional {c : Closure} {g : Grammar} {p : Parser} : c.grammar = .optional g →
      Built rules L E p (c.inner g) → Built rules L E (.optional p) c
  | transform {c : Closure} {f : Value → Value} {g : Grammar} {p : Parser} :
      c.grammar = .transform f g → Built rules L E p (c.inner g) →
      Built rules L E (.transform f p) c
  | tryTransform {c : Closure} {f : Value → Option Value} {g : Grammar} {p : Parser} :
      c.grammar = .tryTransform f g → Built rules L E p (c.inner g) →
      Built rules L E (.tryTransform f p) c
  | tag {c : Closure} {accepts : Value → Bool} {g : Grammar} {p : Parser} :
      c.grammar = .tag accepts g → Built rules L E p (c.inner g) →
      Built rules L E (.tag accepts p) c
  | guarded {c : Closure} {accepts : Value → Bool} {g : Grammar} {p : Parser} :
      c.grammar = .guarded accepts g → Built rules L E p (c.inner g) →
      Built rules L E (.guarded accepts p) c
  | labelled {c : Closure} {label : String} {g : Grammar} {p : Parser} :
      c.grammar = .labelled label g → Built rules L E p (c.inner g) →
      Built rules L E (.labelled label p) c
  | deferred {i : Nat} {e : Entry} : L.cells[i]? = some (some e) → e.within ⊆ E →
      Built rules L E (.deferred i) e.closure
  | rule {j : Nat} {e : Entry} : L.slots[j]? = some (some e) → e.within ⊆ E →
      Built rules L E (.rule j) e.closure
  /-- A handle stands within the body of its rule. -/
  | handle {j : Nat} {e : Entry} : L.slots[j]? = some (some e) → j ∈ E →
      Built rules L E (.handle j) e.closure
  | means {p : Parser} {c c' : Closure} : c.Means rules c' → Built rules L E p c' →
      Built rules L E p c
  | dangles {c : Closure} {error : GrammarError} : c.Dangles rules error →
      Built rules L E (.raise error) c

/-- The parser `p` is what a cell or slot made for `c` holds. -/
inductive Filled (rules : Rules) (L : Legend) (E : List Nat) : Parser → Closure → Prop
  | means {p : Parser} {c c' : Closure} : c.Means rules c' → Built rules L E p c' →
      Filled rules L E p c
  | dangles {c : Closure} {error : GrammarError} : c.Dangles rules error →
      Filled rules L E (.raise error) c

/-- The parsers in scope were built from the definitions in scope. -/
def ScopeBuilt (rules : Rules) (L : Legend) (E : List Nat) (scope : Scope)
    (ρ : List (String × Closure)) : Prop :=
  List.Forall₂ (fun a b => a.1 = b.1 ∧ Built rules L E a.2 b.2) scope ρ

section
variable {rules : Rules} {L L' : Legend} {E E' : List Nat} {p : Parser} {c : Closure}

theorem Filled.built (h : Filled rules L E p c) : Built rules L E p c := by
  cases h with
  | means hm hb => exact .means hm hb
  | dangles hd => exact .dangles hd

theorem Built.mono (h : Built rules L E p c) (hL : L.Le L') (hE : E ⊆ E') :
    Built rules L' E' p c := by
  induction h with
  | literal hg => exact .literal hg
  | charClass hg => exact .charClass hg
  | pattern hg hp => exact .pattern hg hp
  | custom hg => exact .custom hg
  | sequence hg hl _ ih => exact .sequence hg hl ih
  | choice hg hl _ ih => exact .choice hg hl ih
  | many hg _ ih => exact .many hg ih
  | optional hg _ ih => exact .optional hg ih
  | transform hg _ ih => exact .transform hg ih
  | tryTransform hg _ ih => exact .tryTransform hg ih
  | tag hg _ ih => exact .tag hg ih
  | guarded hg _ ih => exact .guarded hg ih
  | labelled hg _ ih => exact .labelled hg ih
  | deferred hi hw => exact .deferred (hL.cells _ _ hi) (List.Subset.trans hw hE)
  | rule hj hw => exact .rule (hL.slots _ _ hj) (List.Subset.trans hw hE)
  | handle hj hm => exact .handle (hL.slots _ _ hj) (hE hm)
  | means hm _ ih => exact .means hm ih
  | dangles hd => exact .dangles hd

theorem Filled.mono (h : Filled rules L E p c) (hL : L.Le L') (hE : E ⊆ E') :
    Filled rules L' E' p c := by
  cases h with
  | means hm hb => exact .means hm (hb.mono hL hE)
  | dangles hd => exact .dangles hd

theorem ScopeBuilt.mono {scope : Scope} {ρ : List (String × Closure)}
    (h : ScopeBuilt rules L E scope ρ) (hL : L.Le L') (hE : E ⊆ E') :
    ScopeBuilt rules L' E' scope ρ :=
  List.Forall₂.imp (fun _ _ hb => ⟨hb.1, hb.2.mono hL hE⟩) h

/-- A name in scope stands for a parser that was built from its meaning. -/
theorem ScopeBuilt.lookup {scope : Scope} {ρ : List (String × Closure)}
    (h : ScopeBuilt rules L E scope ρ) (name : String) :
    (scope.lookup name = none ∧ ρ.lookup name = none) ∨
      ∃ p c, scope.lookup name = some p ∧ ρ.lookup name = some c ∧ Built rules L E p c := by
  induction h with
  | nil => exact .inl ⟨rfl, rfl⟩
  | @cons a b scope ρ hab _ ih =>
    obtain ⟨m, p⟩ := a
    obtain ⟨n, c⟩ := b
    obtain ⟨rfl, hb⟩ : m = n ∧ Built rules L E p c := hab
    by_cases hn : name = m
    · subst hn
      exact .inr ⟨p, c, by simp, by simp, hb⟩
    · have hne : (name == m) = false := by simpa using hn
      simpa only [List.lookup_cons, hne] using ih

end

/-! ## Stores -/

/-- A cell is there for what the entry says. -/
structure CellSound (rules : Rules) (L : Legend) (e : Entry) (cell : Cell) : Prop where
  rules_eq : cell.factory.rules = rules
  closure_eq : e.closure.grammar = .deferred cell.factory.body
  scope : ScopeBuilt rules L e.within cell.factory.scope e.closure.scope
  parser : ∀ p, cell.parser? = some p → Filled rules L e.within p e.closure

/-- The cells and slots of the store are what the legend says, except for the slots `O`. -/
structure Sound (rules : Rules) (O : List Nat) (L : Legend) (store : Store) : Prop where
  slots_length : L.slots.length = store.slots.size
  cells_length : L.cells.length = store.cells.size
  slot : ∀ (j : Nat) e, L.slots[j]? = some (some e) → j ∉ O →
    ∃ p, store.slots[j]? = some (.installed p) ∧ Filled rules L (j :: e.within) p e.closure
  cell : ∀ (i : Nat) e, L.cells[i]? = some (some e) →
    ∃ cell, store.cells[i]? = some cell ∧ CellSound rules L e cell

/-- Nothing refers to an empty store. -/
theorem sound_empty (rules : Rules) : Sound rules [] ⟨[], []⟩ Store.empty :=
  ⟨rfl, rfl, fun _ _ hj => by simp at hj, fun _ _ hi => by simp at hi⟩

section
variable {rules : Rules} {L L' : Legend} {O : List Nat} {store store' : Store}

theorem CellSound.mono {e : Entry} {cell : Cell} (h : CellSound rules L e cell) (hL : L.Le L') :
    CellSound rules L' e cell :=
  ⟨h.rules_eq, h.closure_eq, h.scope.mono hL (List.Subset.refl _),
    fun p hp => (h.parser p hp).mono hL (List.Subset.refl _)⟩

/-- Soundness is about cells and slots only. -/
theorem Sound.congr (h : Sound rules O L store) (hs : store'.slots = store.slots)
    (hc : store'.cells = store.cells) : Sound rules O L store' := by
  obtain ⟨h1, h2, h3, h4⟩ := h
  exact ⟨by rw [hs, h1], by rw [hc, h2], by rw [hs]; exact h3, by rw [hc]; exact h4⟩

/-- The parser behind a rule or a handle. -/
theorem Sound.body (h : Sound rules [] L store) {j : Nat} {e : Entry}
    (hj : L.slots[j]? = some (some e)) :
    ∃ p, store.body j = .ok p ∧ Filled rules L (j :: e.within) p e.closure := by
  obtain ⟨p, hp, hf⟩ := h.slot j e hj (List.not_mem_nil)
  exact ⟨p, by simp [Store.body, hp], hf⟩

/-- A slot that was just added, of a rule that is being built. -/
theorem Sound.addSlot (h : Sound rules O L store) (e : Entry) :
    Sound rules (store.slots.size :: O) (L.addSlot (some e)) store.addSlot := by
  have hL := L.le_addSlot (some e)
  refine ⟨by simp [Legend.addSlot, Store.addSlot, h.slots_length], h.cells_length,
    fun j e' hj hO => ?_, fun i e' hi => ?_⟩
  · simp only [List.mem_cons, not_or] at hO
    have hj' : L.slots[j]? = some (some e') := by
      rcases Nat.lt_or_ge j L.slots.length with hlt | hge
      · rwa [Legend.addSlot, List.getElem?_append_left hlt] at hj
      · have hlt := (List.getElem?_eq_some_iff.1 hj).1
        simp only [Legend.addSlot, List.length_append, List.length_singleton] at hlt
        have := h.slots_length
        omega
    obtain ⟨p, hp, hf⟩ := h.slot j e' hj' hO.2
    refine ⟨p, ?_, hf.mono hL (List.Subset.refl _)⟩
    simp [Store.addSlot, Array.getElem?_push, hO.1, hp]
  · obtain ⟨cell, hc, hs⟩ := h.cell i e' hi
    exact ⟨cell, hc, hs.mono hL⟩

/-- Putting in place the body of the rule that was being built. -/
theorem Sound.install {j : Nat} {e : Entry} {p : Parser} (h : Sound rules (j :: O) L store)
    (hj : L.slots[j]? = some (some e)) (hf : Filled rules L (j :: e.within) p e.closure) :
    Sound rules O L (store.install j p) := by
  have hlt : j < store.slots.size := by
    rw [← h.slots_length]; exact (List.getElem?_eq_some_iff.1 hj).1
  refine ⟨by simp [Store.install, h.slots_length], h.cells_length, fun k e' hk hO => ?_, h.cell⟩
  by_cases hkj : k = j
  · subst hkj
    rw [hj] at hk
    cases hk
    exact ⟨p, by simp [Store.install, hlt], hf⟩
  · obtain ⟨q, hq, hf'⟩ := h.slot k e' hk (by simp [hkj, hO])
    exact ⟨q, by simp [Store.install, Ne.symm hkj, hq], hf'⟩

/-- A cell that was just added. -/
theorem Sound.addCell (h : Sound rules O L store) {e : Entry} {factory : Factory}
    (hs : CellSound rules L e ⟨factory, none⟩) :
    Sound rules O (L.addCell (some e)) (store.addCell factory) := by
  have hL := L.le_addCell (some e)
  refine ⟨h.slots_length, by simp [Legend.addCell, Store.addCell, h.cells_length],
    fun j e' hj hO => ?_, fun i e' hi => ?_⟩
  · obtain ⟨p, hp, hf⟩ := h.slot j e' hj hO
    exact ⟨p, hp, hf.mono hL (List.Subset.refl _)⟩
  · rcases Nat.lt_trichotomy i L.cells.length with hlt | rfl | hgt
    · rw [Legend.addCell, List.getElem?_append_left hlt] at hi
      obtain ⟨cell, hc, hs'⟩ := h.cell i e' hi
      have hne : i ≠ store.cells.size := by rw [← h.cells_length]; omega
      exact ⟨cell, by simp [Store.addCell, Array.getElem?_push, hne, hc], hs'.mono hL⟩
    · simp only [Legend.addCell, List.getElem?_concat_length, Option.some.injEq] at hi
      subst hi
      exact ⟨⟨factory, none⟩, by simp [Store.addCell, h.cells_length], hs.mono hL⟩
    · have hlt := (List.getElem?_eq_some_iff.1 hi).1
      simp only [Legend.addCell, List.length_append, List.length_singleton] at hlt
      omega

/-- Filling a cell. -/
theorem Sound.fillCell (h : Sound rules O L store) {i : Nat} {e : Entry} {cell : Cell}
    {p : Parser} (hi : L.cells[i]? = some (some e)) (hs : CellSound rules L e cell)
    (hf : Filled rules L e.within p e.closure) :
    Sound rules O L (store.fillCell i cell.factory p) := by
  have hlt : i < store.cells.size := by
    rw [← h.cells_length]; exact (List.getElem?_eq_some_iff.1 hi).1
  refine ⟨h.slots_length, by simp [Store.fillCell, h.cells_length], h.slot, fun k e' hk => ?_⟩
  by_cases hki : k = i
  · subst hki
    rw [hi] at hk
    cases hk
    refine ⟨⟨cell.factory, some p⟩, by simp [Store.fillCell, hlt],
      hs.rules_eq, hs.closure_eq, hs.scope, fun q hq => ?_⟩
    cases hq
    exact hf
  · obtain ⟨cell', hc, hs'⟩ := h.cell k e' hk
    exact ⟨cell', by simp [Store.fillCell, Ne.symm hki, hc], hs'⟩

end

end Descent
