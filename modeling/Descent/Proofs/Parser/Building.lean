import Descent.Parser.Run

/-!
# What building does to the store

Building makes cells, which stay empty, and rules, each of which is opened, has its body built, and
then gets the body put in place. `store.Extended store'` says that this and nothing else has been
done. Since every way to build a parser is of this kind (`extended_build`), what building leaves
alone, reports and counts is read off the relation: that it only adds cells and slots (`grown_build`)
no less than what it reports. So is what resolving a cell does (`Store.resolve_of_empty`).
-/

namespace Descent

/-! ## Grown stores -/

/-- `store'` has the cells and slots of `store`, the same failures, and maybe more cells and
slots. -/
structure Store.Grown (store store' : Store) : Prop where
  slots_size : store.slots.size ≤ store'.slots.size
  cells_size : store.cells.size ≤ store'.cells.size
  slots : ∀ j < store.slots.size, store'.slots[j]? = store.slots[j]?
  cells : ∀ i < store.cells.size, store'.cells[i]? = store.cells[i]?
  tracker : store'.tracker = store.tracker

namespace Store

theorem Grown.refl (store : Store) : store.Grown store :=
  ⟨Nat.le_refl _, Nat.le_refl _, fun _ _ => rfl, fun _ _ => rfl, rfl⟩

theorem Grown.trans {a b c : Store} (h : a.Grown b) (h' : b.Grown c) : a.Grown c :=
  ⟨Nat.le_trans h.slots_size h'.slots_size, Nat.le_trans h.cells_size h'.cells_size,
    fun j hj => by rw [h'.slots j (Nat.lt_of_lt_of_le hj h.slots_size), h.slots j hj],
    fun i hi => by rw [h'.cells i (Nat.lt_of_lt_of_le hi h.cells_size), h.cells i hi],
    by rw [h'.tracker, h.tracker]⟩

/-- What is not about cells, slots and failures does not matter. -/
theorem Grown.congr {a b c : Store} (h : a.Grown b) (hs : c.slots = b.slots)
    (hc : c.cells = b.cells) (ht : c.tracker = b.tracker) : a.Grown c :=
  ⟨by rw [hs]; exact h.slots_size, by rw [hc]; exact h.cells_size, by rw [hs]; exact h.slots,
    by rw [hc]; exact h.cells, by rw [ht]; exact h.tracker⟩

theorem grown_addSlot (store : Store) : store.Grown store.addSlot :=
  ⟨by simp [addSlot], Nat.le_refl _,
    fun j hj => by simp [addSlot, Array.getElem?_push, Nat.ne_of_lt hj], fun _ _ => rfl, rfl⟩

theorem grown_addCell (factory : Factory) (store : Store) : store.Grown (store.addCell factory) :=
  ⟨Nat.le_refl _, by simp [addCell], fun _ _ => rfl,
    fun i hi => by simp [addCell, Array.getElem?_push, Nat.ne_of_lt hi], rfl⟩

/-- A body is put in place in a slot that is new. -/
theorem Grown.install {a b : Store} (h : a.Grown b) {j : Nat} (hj : a.slots.size ≤ j)
    (p : Parser) : a.Grown (b.install j p) := by
  refine ⟨by simpa [Store.install] using h.slots_size, h.cells_size, fun k hk => ?_, h.cells,
    h.tracker⟩
  have hkj : j ≠ k := by omega
  simp only [Store.install, Array.getElem?_setIfInBounds, if_neg hkj]
  exact h.slots k hk

@[simp] theorem slots_probe (slot : Nat) (store : Store) :
    (store.probe slot).slots = store.slots := by
  unfold probe; split <;> rfl

@[simp] theorem cells_probe (slot : Nat) (store : Store) :
    (store.probe slot).cells = store.cells := by
  unfold probe; split <;> rfl

@[simp] theorem tracker_probe (slot : Nat) (store : Store) :
    (store.probe slot).tracker = store.tracker := by
  unfold probe; split <;> rfl

end Store

namespace Grammar

/-- The store in which the body of a recursive rule is built. -/
def openRule (name : String) (exposed probed : Bool) (store : Store) : Store :=
  let slot := store.slots.size
  let store := store.addSlot
  let store := if exposed then store.expose name slot else store
  if probed then store.probe slot else store

section
variable (name : String) (exposed probed : Bool) (store : Store)

@[simp] theorem slots_openRule :
    (openRule name exposed probed store).slots = store.addSlot.slots := by
  unfold openRule; cases exposed <;> cases probed <;> simp [Store.expose]

@[simp] theorem cells_openRule :
    (openRule name exposed probed store).cells = store.addSlot.cells := by
  unfold openRule; cases exposed <;> cases probed <;> simp [Store.expose]

@[simp] theorem tracker_openRule :
    (openRule name exposed probed store).tracker = store.addSlot.tracker := by
  unfold openRule; cases exposed <;> cases probed <;> simp [Store.expose]

theorem grown_openRule : store.Grown (openRule name exposed probed store) :=
  store.grown_addSlot.congr (slots_openRule ..) (cells_openRule ..) (tracker_openRule ..)

end

section
variable {rules : Rules} {named : String → Scope → Build}

theorem buildWith_recursive (scope : Scope) (name : String) (exposed probed : Bool)
    (body : Grammar) (store : Store) :
    buildWith rules named scope (.recursive name exposed probed body) store =
      match buildWith rules named ((name, .handle store.slots.size) :: scope) body
        (openRule name exposed probed store) with
      | (.ok parser, store') =>
        (.ok (.rule store.slots.size),
          (store'.install store.slots.size parser).report .installedRule)
      | (.error error, store') =>
        (.error error,
          (store'.install store.slots.size (.raise error)).report .installedRule) := by
  rw [buildWith]; rfl

end

end Grammar

/-! ## Cells -/

namespace Store

/-- The parser in a cell, if the cell is filled. -/
def parser? (cell : Nat) (store : Store) : Option Parser := store.cells[cell]?.bind Cell.parser?

/-- The number of cells that are filled. -/
def filled (store : Store) : Nat := store.cells.countP fun cell => cell.parser?.isSome

section
variable {cell : Nat} {store store' : Store}

theorem parser?_congr (h : store'.cells = store.cells) (cell : Nat) :
    store'.parser? cell = store.parser? cell := by
  rw [parser?, parser?, h]

theorem filled_congr (h : store'.cells = store.cells) : store'.filled = store.filled := by
  rw [filled, filled, h]

theorem parser?_of_le (h : store.cells.size ≤ cell) : store.parser? cell = none := by
  rw [parser?, Array.getElem?_eq_none h, Option.bind_none]

@[simp] theorem parser?_addCell (factory : Factory) (store : Store) (cell : Nat) :
    (store.addCell factory).parser? cell = store.parser? cell := by
  rcases Nat.lt_trichotomy cell store.cells.size with hlt | rfl | hgt
  · simp [parser?, addCell, Array.getElem?_push, Nat.ne_of_lt hlt]
  · simp [parser?, addCell]
  · have hsize : (store.addCell factory).cells.size = store.cells.size + 1 := by simp [addCell]
    rw [parser?_of_le (Nat.le_of_lt hgt), parser?_of_le (by omega)]

@[simp] theorem filled_addCell (factory : Factory) (store : Store) :
    (store.addCell factory).filled = store.filled := by
  simp [filled, addCell]

theorem parser?_fillCell (h : cell < store.cells.size) (factory : Factory) (p : Parser)
    (cell' : Nat) :
    (store.fillCell cell factory p).parser? cell' =
      if cell' = cell then some p else store.parser? cell' := by
  by_cases hc : cell' = cell
  · subst hc
    simp [parser?, fillCell, h]
  · simp [parser?, fillCell, hc, Ne.symm hc]

/-- Filling an empty cell makes one more filled cell. -/
theorem filled_fillCell {factory : Factory} (h : store.cells[cell]? = some ⟨factory, none⟩)
    (factory' : Factory) (p : Parser) :
    (store.fillCell cell factory' p).filled = store.filled + 1 := by
  obtain ⟨hlt, hc⟩ := Array.getElem?_eq_some_iff.1 h
  have hset : store.cells.setIfInBounds cell ⟨factory', some p⟩ =
      store.cells.set cell ⟨factory', some p⟩ hlt := by
    rw [Array.setIfInBounds, dif_pos hlt]
  rw [filled, fillCell, hset, Array.countP_set, hc]
  simp [filled]

end

@[simp] theorem events_probe (slot : Nat) (store : Store) :
    (store.probe slot).events = store.events := by
  unfold probe; split <;> rfl

@[simp] theorem built_probe (slot : Nat) (store : Store) :
    (store.probe slot).built = store.built := by
  unfold probe; split <;> rfl

/-! ## Extended stores -/

/-- `store'` comes of `store` by making cells and rules. -/
inductive Extended : Store → Store → Prop
  | refl (s : Store) : Extended s s
  | cell {s t : Store} (factory : Factory) : Extended s t → Extended s (t.addCell factory)
  /-- The body of a rule is built between opening the rule and putting the body in place. -/
  | rule {s t u : Store} (name : String) (exposed probed : Bool) (body : Parser) :
      Extended s t → Extended (Grammar.openRule name exposed probed t) u →
      Extended s ((u.install t.slots.size body).report .installedRule)

namespace Extended

variable {s t u : Store}

theorem trans (h : s.Extended t) (h' : t.Extended u) : s.Extended u := by
  induction h' with
  | refl => exact h
  | cell factory _ ih => exact .cell factory (ih h)
  | rule name exposed probed body _ hu ih _ => exact .rule name exposed probed body (ih h) hu

theorem grown (h : s.Extended t) : s.Grown t := by
  induction h with
  | refl s => exact .refl s
  | cell factory _ ih => exact ih.trans (grown_addCell factory _)
  | @rule s t u name exposed probed body _ _ ih ih' =>
    have ho := (Grammar.grown_openRule name exposed probed t).trans ih'
    exact ih.trans ((ho.install (Nat.le_refl _) body).congr rfl rfl rfl)

/-- Cells that are made stay empty. -/
theorem parser? (h : s.Extended t) (cell : Nat) : t.parser? cell = s.parser? cell := by
  induction h with
  | refl => rfl
  | cell factory _ ih => rw [parser?_addCell, ih]
  | rule name exposed probed body _ _ ih ih' =>
    exact ih'.trans ((parser?_congr (Grammar.cells_openRule ..) cell).trans ih)

theorem filled (h : s.Extended t) : t.filled = s.filled := by
  induction h with
  | refl => rfl
  | cell factory _ ih => rw [filled_addCell, ih]
  | rule name exposed probed body _ _ ih ih' =>
    exact ih'.trans ((filled_congr (Grammar.cells_openRule ..)).trans ih)

end Extended

end Store

namespace Grammar

section
variable (name : String) (exposed probed : Bool) (store : Store)

@[simp] theorem events_openRule : (openRule name exposed probed store).events = store.events := by
  unfold openRule; cases exposed <;> cases probed <;> simp [Store.expose, Store.addSlot]

@[simp] theorem built_openRule : (openRule name exposed probed store).built = store.built := by
  unfold openRule; cases exposed <;> cases probed <;> simp [Store.expose, Store.addSlot]

/-- The body of a rule that has just been opened is not there yet. -/
@[simp] theorem body_addSlot :
    (store.addSlot).body store.slots.size = .error .undefinedRule := by
  simp [Store.body, Store.addSlot]

theorem probes_openRule :
    (openRule name exposed probed store).probes =
      store.probes ++ if probed then #[.undefinedRule] else #[] := by
  have h : ∀ s : Store, s.slots = store.addSlot.slots → s.probes = store.probes →
      (s.probe store.slots.size).probes = store.probes ++ #[.undefinedRule] := by
    intro s hs hp
    have hb : s.body store.slots.size = .error .undefinedRule := by
      rw [Store.body, hs]
      exact body_addSlot store
    rw [Store.probe, hb, ← hp]
    rfl
  unfold openRule
  cases exposed <;> cases probed
  · exact (Array.append_empty).symm
  · exact h _ rfl rfl
  · exact (Array.append_empty).symm
  · exact h _ rfl rfl

end

end Grammar

namespace Store.Extended

variable {s t : Store}

/-- Building runs no factory. -/
theorem built (h : s.Extended t) : t.built = s.built := by
  induction h with
  | refl => rfl
  | cell factory _ ih => exact ih
  | rule name exposed probed body _ _ ih ih' =>
    exact ih'.trans ((Grammar.built_openRule ..).trans ih)

/-- Building reports the rules that are in place. -/
theorem events (h : s.Extended t) :
    ∃ n, t.events = s.events ++ Array.replicate n .installedRule := by
  induction h with
  | refl => exact ⟨0, by simp⟩
  | cell factory _ ih => exact ih
  | @rule s t u name exposed probed body _ _ ih ih' =>
    obtain ⟨m, hm⟩ := ih
    obtain ⟨n, hn⟩ := ih'
    refine ⟨m + n + 1, ?_⟩
    change u.events.push .installedRule = _
    rw [hn, Grammar.events_openRule, hm, Array.replicate_succ, ← Array.push_append,
      Array.append_assoc, Array.replicate_append_replicate]

/-- A handle that is invoked before the body of its rule is built comes to an undefined rule. -/
theorem probes (h : s.Extended t) :
    ∃ n, t.probes = s.probes ++ Array.replicate n .undefinedRule := by
  induction h with
  | refl => exact ⟨0, by simp⟩
  | cell factory _ ih => exact ih
  | @rule s t u name exposed probed body _ _ ih ih' =>
    obtain ⟨m, hm⟩ := ih
    obtain ⟨n, hn⟩ := ih'
    refine ⟨m + (if probed then 1 else 0) + n, ?_⟩
    change u.probes = _
    rw [hn, Grammar.probes_openRule, hm, ← Array.replicate_append_replicate,
      ← Array.replicate_append_replicate]
    cases probed <;> simp [Array.append_assoc]

end Store.Extended

/-! ## Building extends -/

namespace Grammar

section
variable {rules : Rules} {named : String → Scope → Build}

theorem extended_andThen {α β : Type} {store : Store} {result : Except GrammarError α × Store}
    {next : α → Store → Except GrammarError β × Store} (h : store.Extended result.2)
    (hn : ∀ a (store' : Store), store'.Extended (next a store').2) :
    store.Extended (andThen result next).2 := by
  match result with
  | (.ok a, store') => exact h.trans (hn a store')
  | (.error _, _) => exact h

theorem extended_wrap {make : Parser → Parser} {build : Build} {store : Store}
    (h : store.Extended (build store).2) : store.Extended (wrap make build store).2 :=
  extended_andThen h fun _ store' => .refl store'

mutual

theorem extended_buildWith
    (hn : ∀ name scope (store : Store), store.Extended (named name scope store).2) :
    ∀ (g : Grammar) (scope : Scope) (store : Store),
      store.Extended (buildWith rules named scope g store).2
  | .literal _, _, store => .refl store
  | .charClass _ _, _, store => .refl store
  | .pattern _ _, _, store => by
    rw [buildWith]; split <;> exact .refl store
  | .custom _, _, store => .refl store
  | .sequence parts, scope, store =>
    extended_andThen (extended_buildAll hn parts scope store) fun _ store' => .refl store'
  | .choice parts, scope, store =>
    extended_andThen (extended_buildAll hn parts scope store) fun _ store' => .refl store'
  | .many body, scope, store => extended_wrap (extended_buildWith hn body scope store)
  | .optional body, scope, store => extended_wrap (extended_buildWith hn body scope store)
  | .deferred _, _, store => .cell _ (.refl store)
  | .rule name, scope, store => hn name scope store
  | .bind _ definition body, scope, store =>
    extended_andThen (extended_buildWith hn definition scope store) fun _ store' =>
      extended_buildWith hn body _ store'
  | .recursive name exposed probed body, scope, store => by
    have h := extended_buildWith hn body ((name, .handle store.slots.size) :: scope)
      (openRule name exposed probed store)
    rw [buildWith_recursive]
    split <;> rename_i hb <;> rw [hb] at h <;> exact .rule name exposed probed _ (.refl store) h
  | .var _, _, store => .refl store
  | .transform _ body, scope, store => extended_wrap (extended_buildWith hn body scope store)
  | .tryTransform _ body, scope, store => extended_wrap (extended_buildWith hn body scope store)
  | .tag _ body, scope, store => extended_wrap (extended_buildWith hn body scope store)
  | .guarded _ body, scope, store => extended_wrap (extended_buildWith hn body scope store)
  | .labelled _ body, scope, store => extended_wrap (extended_buildWith hn body scope store)

theorem extended_buildAll
    (hn : ∀ name scope (store : Store), store.Extended (named name scope store).2) :
    ∀ (gs : List Grammar) (scope : Scope) (store : Store),
      store.Extended (buildAll rules named scope gs store).2
  | [], _, store => .refl store
  | g :: gs, scope, store =>
    extended_andThen (extended_buildWith hn g scope store) fun _ store' =>
      extended_andThen (extended_buildAll hn gs scope store') fun _ store'' => .refl store''

end

theorem extended_buildNamed (rules : Rules) (depth : Nat) (name : String) (scope : Scope)
    (store : Store) : store.Extended (buildNamed rules depth name scope store).2 := by
  induction depth generalizing name scope store with
  | zero => exact .refl store
  | succ depth ih =>
    rw [buildNamed]
    cases rules.lookup name with
    | some definition => exact extended_buildWith ih definition scope store
    | none => exact .refl store

theorem extended_build (rules : Rules) (scope : Scope) (g : Grammar) (store : Store) :
    store.Extended (g.build rules scope store).2 :=
  extended_buildWith (extended_buildNamed rules rules.length) g scope store

/-- Building adds cells and slots and changes none. -/
theorem grown_build (rules : Rules) (scope : Scope) (g : Grammar) (store : Store) :
    store.Grown (g.build rules scope store).2 :=
  (extended_build rules scope g store).grown

end

end Grammar

theorem Factory.extended_run (factory : Factory) (store : Store) :
    store.Extended (factory.run store).2 := by
  have h := Grammar.extended_build factory.rules factory.scope factory.body store
  unfold Factory.run
  split <;> rename_i hb <;> rwa [hb] at h

/-! ## Resolving a cell -/

namespace Store

/-- The store in which the factory of a cell runs. -/
def beforeFactory (store : Store) : Store := (store.report .resolvingDeferred).countFactory

/-- A cell that is filled is left as it is. -/
theorem resolve_of_filled {cell : Nat} {store : Store} {p : Parser}
    (h : store.parser? cell = some p) : store.resolve cell = (p, store) := by
  obtain ⟨⟨factory, parser?⟩, hc, hp⟩ := Option.bind_eq_some_iff.1 h
  obtain rfl : parser? = some p := hp
  rw [resolve, hc]

/-- An empty cell is filled with what its factory makes. -/
theorem resolve_of_empty {cell : Nat} {store : Store} {factory : Factory}
    (h : store.cells[cell]? = some ⟨factory, none⟩) :
    store.resolve cell = ((factory.run store.beforeFactory).1,
      (factory.run store.beforeFactory).2.fillCell cell factory
        (factory.run store.beforeFactory).1) := by
  rw [resolve, h]
  rfl

theorem resolve_of_le {cell : Nat} {store : Store} (h : store.cells.size ≤ cell) :
    store.resolve cell = (.raise .undefinedRule, store) := by
  rw [resolve, Array.getElem?_eq_none h]

/-- A cell is filled already, or empty, or not there. -/
theorem cell_cases (cell : Nat) (store : Store) :
    (∃ p, store.parser? cell = some p) ∨
      (∃ factory, store.cells[cell]? = some ⟨factory, none⟩) ∨ store.cells.size ≤ cell := by
  unfold parser?
  cases hc : store.cells[cell]? with
  | none => exact .inr (.inr (Array.getElem?_eq_none_iff.1 hc))
  | some c =>
    obtain ⟨factory, parser?⟩ := c
    cases parser? with
    | some p => exact .inl ⟨p, rfl⟩
    | none => exact .inr (.inl ⟨factory, rfl⟩)

end Store

end Descent
