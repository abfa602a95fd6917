import Descent.Proofs.Meaning.Collect
import Descent.Proofs.Parser.Building
import Mathlib.Logic.Relation

/-!
# What stands

A cell or a rule stands if it is there and all that it owns stands in turn (`Store.Stands`). The
relation is inductive, so that nothing that stands leads back to itself (`Stands.not_transGen`): the
cycle of a rule goes through its handle, which owns nothing. To release what has no owner any more is
therefore to release all that nobody can get at.

What is built of parts that stand stands as well (`Grammar.upheld_build`). Filling a cell needs more,
since the cell may stand below what its factory uses: the factory was given its scope before the cell
was there, so that nothing in the scope leads to the cell (`Stands.avoid_self`), and what it builds of
the scope does not either. So what has stood goes on standing (`Store.lasting_resolve`).
-/

namespace Descent

open Relation (TransGen ReflTransGen)

namespace Store

/-! ## Places that stand -/

/-- The cell is there, or the rule with its body. -/
def Has (store : Store) : Owned → Prop
  | .cell i => i < store.cells.size
  | .slot j => ∃ body, store.slots[j]? = some (.installed body)

/-- The place is there and not barred, and all that it owns stands. -/
inductive Stands (store : Store) (barred : List Owned) : Owned → Prop
  | mk {x : Owned} : x ∉ barred → store.Has x →
      (∀ y ∈ store.ownedBy x, Stands store barred y) → Stands store barred x

/-- All that the parser mentions stands. -/
def Supports (store : Store) (barred : List Owned) (p : Parser) : Prop :=
  ∀ x ∈ p.owns, store.Stands barred x

/-- What is behind the one place mentions the other. -/
def Holds (store : Store) (x y : Owned) : Prop := y ∈ store.ownedBy x

theorem ownedBy_slot {store : Store} {j : Nat} {body : Parser}
    (h : store.slots[j]? = some (.installed body)) : store.ownedBy (.slot j) = body.owns := by
  rw [ownedBy, h]

theorem ownedBy_cell {store : Store} {i : Nat} {cell : Cell} (h : store.cells[i]? = some cell) :
    store.ownedBy (.cell i) =
      Parser.ownsAll (cell.parser?.toList ++ cell.factory.scope.map Prod.snd) := by
  rw [ownedBy, h]

namespace Stands

variable {s t : Store} {barred barred' : List Owned} {x y : Owned}

theorem has (h : s.Stands barred x) : s.Has x := by
  cases h with
  | mk _ hx _ => exact hx

theorem owned (h : s.Stands barred x) (hy : y ∈ s.ownedBy x) : s.Stands barred y := by
  cases h with
  | mk _ _ ho => exact ho y hy

theorem body {j : Nat} {p : Parser} (h : s.Stands barred (.slot j))
    (hp : s.slots[j]? = some (.installed p)) : s.Supports barred p :=
  fun _ hx => h.owned (by rwa [ownedBy_slot hp])

/-- Nothing that stands leads back to itself. -/
theorem not_transGen (h : s.Stands barred x) : ¬ TransGen s.Holds x x := by
  induction h with
  | mk _ _ _ ih =>
    intro hc
    obtain ⟨y, hy, hyx⟩ := TransGen.head'_iff.1 hc
    exact ih y hy (.tail' hyx hy)

theorem avoid (h : s.Stands barred y) (hy : ¬ ReflTransGen s.Holds y x) :
    s.Stands (x :: barred) y := by
  induction h with
  | @mk z hb hz _ ih =>
    refine .mk (fun hm => ?_) hz fun u hu => ih u hu fun hux => hy (.head hu hux)
    rcases List.mem_cons.1 hm with rfl | hm
    · exact hy .refl
    · exact hb hm

/-- What a place owns stands without the place. -/
theorem avoid_self (h : s.Stands barred x) (hy : y ∈ s.ownedBy x) : s.Stands (x :: barred) y :=
  (h.owned hy).avoid fun hyx => h.not_transGen (.head' hy hyx)

/-- Only the places that are not barred matter. -/
theorem congr (h : s.Stands barred x) (hb : barred' ⊆ barred)
    (ht : ∀ y, y ∉ barred → s.Has y → t.Has y ∧ t.ownedBy y ⊆ s.ownedBy y) :
    t.Stands barred' x := by
  induction h with
  | @mk x hx hs _ ih =>
    obtain ⟨hx', hsub⟩ := ht x hx hs
    exact .mk (fun hm => hx (hb hm)) hx' fun y hy => ih y (hsub hy)

end Stands

section
variable {s t : Store} {barred : List Owned} {x : Owned}

theorem has_congr (hs : t.slots = s.slots) (hc : t.cells = s.cells) (x : Owned) :
    t.Has x = s.Has x := by
  cases x <;> simp only [Has, hs, hc]

theorem ownedBy_congr (hs : t.slots = s.slots) (hc : t.cells = s.cells) (x : Owned) :
    t.ownedBy x = s.ownedBy x := by
  cases x <;> simp only [ownedBy, hs, hc]

theorem Stands.of_eq (h : s.Stands barred x) (hs : t.slots = s.slots) (hc : t.cells = s.cells) :
    t.Stands barred x :=
  h.congr (List.Subset.refl _) fun y _ hy =>
    ⟨by rwa [has_congr hs hc], by rw [ownedBy_congr hs hc]; exact List.Subset.refl _⟩

theorem Grown.has (h : s.Grown t) (hx : s.Has x) : t.Has x := by
  cases x with
  | cell i => exact Nat.lt_of_lt_of_le hx h.cells_size
  | slot j =>
    obtain ⟨body, hj⟩ := hx
    exact ⟨body, by rw [h.slots j (Array.getElem?_eq_some_iff.1 hj).1, hj]⟩

theorem Grown.has_slot_iff (h : s.Grown t) {j : Nat} (hj : j < s.slots.size) :
    t.Has (.slot j) ↔ s.Has (.slot j) := by
  rw [Has, Has, h.slots j hj]

theorem Grown.ownedBy_eq (h : s.Grown t) (hx : s.Has x) : t.ownedBy x = s.ownedBy x := by
  cases x with
  | cell i => rw [ownedBy, ownedBy, h.cells i hx]
  | slot j =>
    obtain ⟨body, hj⟩ := hx
    rw [ownedBy, ownedBy, h.slots j (Array.getElem?_eq_some_iff.1 hj).1]

theorem Stands.grown (h : s.Stands barred x) (hg : s.Grown t) : t.Stands barred x :=
  h.congr (List.Subset.refl _) fun _ _ hy =>
    ⟨hg.has hy, by rw [hg.ownedBy_eq hy]; exact List.Subset.refl _⟩

theorem Supports.grown {p : Parser} (h : s.Supports barred p) (hg : s.Grown t) :
    t.Supports barred p :=
  fun x hx => (h x hx).grown hg

/-! ## Cells and slots that are made -/

/-- A new cell stands if what its factory may use stands. -/
theorem stands_addCell {factory : Factory} (hb : .cell s.cells.size ∉ barred)
    (hf : ∀ a ∈ factory.scope, s.Supports barred a.2) :
    (s.addCell factory).Stands barred (.cell s.cells.size) := by
  have hcell : (s.addCell factory).cells[s.cells.size]? = some ⟨factory, none⟩ := by
    simp [addCell]
  refine .mk hb (Array.getElem?_eq_some_iff.1 hcell).1 fun y hy => ?_
  rw [ownedBy_cell hcell, Option.toList_none, List.nil_append, Parser.mem_ownsAll_iff] at hy
  obtain ⟨p, hp, hy⟩ := hy
  obtain ⟨a, ha, rfl⟩ := List.mem_map.1 hp
  exact (hf a ha y hy).grown (s.grown_addCell factory)

section
variable {j : Nat} (hj : ¬ s.Has (.slot j)) (p : Parser)
include hj

/-- What stands without the body of a rule stands with it. -/
theorem Stands.install (h : s.Stands barred x) : (s.install j p).Stands barred x := by
  refine h.congr (List.Subset.refl _) fun y _ hy => ?_
  cases y with
  | cell i => exact ⟨hy, List.Subset.refl _⟩
  | slot k =>
    have hk : j ≠ k := fun heq => hj (heq ▸ hy)
    have hslot : (s.install j p).slots[k]? = s.slots[k]? := by
      simp only [Store.install, Array.getElem?_setIfInBounds, if_neg hk]
    refine ⟨?_, ?_⟩
    · obtain ⟨body, hb⟩ := hy
      exact ⟨body, hslot.trans hb⟩
    · simp only [ownedBy, hslot]
      exact List.Subset.refl _

theorem stands_install (hlt : j < s.slots.size) (hb : .slot j ∉ barred)
    (hp : s.Supports barred p) : (s.install j p).Stands barred (.slot j) := by
  have hslot : (s.install j p).slots[j]? = some (.installed p) := by simp [Store.install, hlt]
  refine .mk hb ⟨p, hslot⟩ fun y hy => (hp y ?_).install hj p
  rwa [ownedBy_slot hslot] at hy

end

end

/-! ## What building adds -/

/-- The rules that have been added stand. -/
structure Raised (barred : List Owned) (s t : Store) : Prop where
  grown : s.Grown t
  slot : ∀ j, s.slots.size ≤ j → t.Has (.slot j) → t.Stands barred (.slot j)

/-- What may be built on is there: the scope stands, and what is barred is not yet to be made. -/
structure Ready (barred : List Owned) (scope : Scope) (s : Store) : Prop where
  there : ∀ x ∈ barred, s.Has x
  scope : ∀ a ∈ scope, s.Supports barred a.2

section
variable {s t u : Store} {barred : List Owned} {scope : Scope}

theorem Raised.refl (barred : List Owned) (s : Store) : Raised barred s s where
  grown := .refl s
  slot j hj hh := by
    obtain ⟨body, hb⟩ := hh
    exact absurd (Array.getElem?_eq_some_iff.1 hb).1 (Nat.not_lt.2 hj)

theorem Raised.trans (h : Raised barred s t) (h' : Raised barred t u) : Raised barred s u where
  grown := h.grown.trans h'.grown
  slot j hj hu := by
    rcases Nat.lt_or_ge j t.slots.size with hlt | hge
    · exact (h.slot j hj ((h'.grown.has_slot_iff hlt).1 hu)).grown h'.grown
    · exact h'.slot j hge hu

theorem Ready.grown (h : Ready barred scope s) (hg : s.Grown t) : Ready barred scope t :=
  ⟨fun x hx => hg.has (h.there x hx), fun a ha => (h.scope a ha).grown hg⟩

theorem Ready.cons {a : String × Parser} (h : Ready barred scope s) (ha : s.Supports barred a.2) :
    Ready barred (a :: scope) s :=
  ⟨h.there, List.forall_mem_cons.2 ⟨ha, h.scope⟩⟩

/-- What is yet to be made is not barred. -/
theorem Ready.not_mem (h : Ready barred scope s) {x : Owned} (hx : ¬ s.Has x) : x ∉ barred :=
  fun hm => hx (h.there x hm)

end

end Store

/-! ## Building -/

namespace Grammar

open Store (Raised Ready)

/-- All that the build adds stands, and so does what it makes. -/
def Upheld {α : Type} (barred : List Owned) (owns : α → List Owned) (s : Store)
    (result : Except GrammarError α × Store) : Prop :=
  Raised barred s result.2 ∧ ∀ a, result.1 = .ok a → ∀ x ∈ owns a, result.2.Stands barred x

section
variable {barred : List Owned} {rules : Rules} {named : String → Scope → Build} {s : Store}

theorem Upheld.andThen {α β : Type} {owns : α → List Owned} {owns' : β → List Owned}
    {result : Except GrammarError α × Store}
    {next : α → Store → Except GrammarError β × Store} (h : Upheld barred owns s result)
    (hn : ∀ a t, s.Grown t → (∀ x ∈ owns a, t.Stands barred x) →
      Upheld barred owns' t (next a t)) :
    Upheld barred owns' s (andThen result next) := by
  obtain ⟨hr, ha⟩ := h
  match result with
  | (.error error, t) => exact ⟨hr, fun _ hb => nomatch hb⟩
  | (.ok a, t) =>
    obtain ⟨hr', hb⟩ := hn a t hr.grown (ha a rfl)
    exact ⟨hr.trans hr', hb⟩

/-- Making something of what has been built adds nothing. -/
theorem Upheld.make {α β : Type} {owns : α → List Owned} {owns' : β → List Owned}
    {result : Except GrammarError α × Store} {make : α → β} (h : Upheld barred owns s result)
    (hm : ∀ a, owns' (make a) ⊆ owns a) :
    Upheld barred owns' s (Grammar.andThen result fun a store => (.ok (make a), store)) := by
  refine h.andThen fun a t _ ha => ⟨.refl barred t, fun b hb x hx => ?_⟩
  cases hb
  exact ha x (hm a hx)

theorem upheld_leaf (result : Except GrammarError Parser)
    (h : ∀ p, result = .ok p → p.owns = []) : Upheld barred Parser.owns s (result, s) :=
  ⟨.refl barred s, fun p hp x hx => by rw [h p hp] at hx; cases hx⟩

theorem upheld_deferred {body : Grammar} {scope : Scope} (h : Ready barred scope s) :
    Upheld barred Parser.owns s (buildWith rules named scope (.deferred body) s) := by
  have hg := s.grown_addCell ⟨body, rules, scope⟩
  refine ⟨⟨hg, fun j hj hh => ((Raised.refl barred s).slot j hj hh).grown hg⟩, fun p hp x hx => ?_⟩
  cases hp
  obtain rfl := List.mem_singleton.1 hx
  exact Store.stands_addCell (h.not_mem (Nat.lt_irrefl _)) h.scope

/-- A rule stands once a body that stands has been put in place. Its slot has been pending until
then, so that what has been built of it so far does not stand on its account. -/
theorem raised_install {name : String} {exposed probed : Bool} {scope : Scope} {q : Parser}
    {t : Store} (h : Ready barred scope s) (ht : Raised barred (openRule name exposed probed s) t)
    (hq : t.Supports barred q) :
    Raised barred s ((t.install s.slots.size q).report .installedRule) ∧
      ((t.install s.slots.size q).report .installedRule).Stands barred (.slot s.slots.size) := by
  have hopen := grown_openRule name exposed probed s
  have hnew : ¬ s.Has (.slot s.slots.size) := by
    rintro ⟨_, hs⟩
    exact Nat.lt_irrefl _ (Array.getElem?_eq_some_iff.1 hs).1
  have hsize : (openRule name exposed probed s).slots.size = s.slots.size + 1 := by
    simp [Store.addSlot]
  have hslot : t.slots[s.slots.size]? = some .pending := by
    rw [ht.grown.slots _ (by omega)]
    simp [Store.addSlot]
  have hpending : ¬ t.Has (.slot s.slots.size) := by
    rintro ⟨_, hh⟩
    rw [hslot] at hh
    cases hh
  have hstands : ∀ {x : Owned}, (t.install s.slots.size q).Stands barred x →
      ((t.install s.slots.size q).report .installedRule).Stands barred x :=
    fun hx => hx.of_eq rfl rfl
  have hlt : s.slots.size < t.slots.size := (Array.getElem?_eq_some_iff.1 hslot).1
  have hself := hstands (Store.stands_install hpending q hlt (h.not_mem hnew) hq)
  have hgrown : s.Grown ((t.install s.slots.size q).report .installedRule) :=
    ((hopen.trans ht.grown).install (Nat.le_refl _) q).congr rfl rfl rfl
  refine ⟨⟨hgrown, fun j hle hh => ?_⟩, hself⟩
  by_cases heq : j = s.slots.size
  · rwa [heq]
  · refine hstands ((ht.slot j (by omega) ?_).install hpending q)
    obtain ⟨body, hbody⟩ := hh
    exact ⟨body, by
      simpa only [Store.report, Store.install, Array.getElem?_setIfInBounds,
        if_neg (Ne.symm heq)] using hbody⟩

/-- Where the body of a rule stands, so does the rule. -/
theorem upheld_recursive {name : String} {exposed probed : Bool} {body : Grammar} {scope : Scope}
    (h : Ready barred scope s)
    (hb : ∀ t, Ready barred ((name, .handle s.slots.size) :: scope) t →
      Upheld barred Parser.owns t
        (buildWith rules named ((name, .handle s.slots.size) :: scope) body t)) :
    Upheld barred Parser.owns s
      (buildWith rules named scope (.recursive name exposed probed body) s) := by
  have hopen := grown_openRule name exposed probed s
  obtain ⟨hr, hp⟩ := hb _ ((h.grown hopen).cons fun x hx => absurd hx List.not_mem_nil)
  rw [buildWith_recursive]
  split <;> rename_i hbuild <;> rw [hbuild] at hr hp
  · rename_i q t
    obtain ⟨hraised, hself⟩ := raised_install h hr (hp q rfl)
    refine ⟨hraised, fun p hp x hx => ?_⟩
    cases hp
    obtain rfl := List.mem_singleton.1 hx
    exact hself
  · -- where the body cannot be built, what stands for it owns nothing
    refine ⟨(raised_install h hr fun x hx => absurd hx List.not_mem_nil).1, fun p hp => ?_⟩
    cases hp

mutual

theorem upheld_buildWith
    (hn : ∀ name scope s, Ready barred scope s →
      Upheld barred Parser.owns s (named name scope s)) :
    ∀ (g : Grammar) (scope : Scope) (s : Store), Ready barred scope s →
      Upheld barred Parser.owns s (buildWith rules named scope g s)
  | .literal _, _, _, _ => upheld_leaf _ fun _ hp => by cases hp; rfl
  | .charClass _ _, _, _, _ => upheld_leaf _ fun _ hp => by cases hp; rfl
  | .pattern _ _, _, _, _ => by
    rw [buildWith]
    split
    · exact upheld_leaf _ fun _ hp => by cases hp; rfl
    · exact upheld_leaf _ fun _ hp => nomatch hp
  | .custom _, _, _, _ => upheld_leaf _ fun _ hp => by cases hp; rfl
  | .sequence gs, scope, s, h =>
    (upheld_buildAll hn gs scope s h).make fun _ => List.Subset.refl _
  | .choice gs, scope, s, h =>
    (upheld_buildAll hn gs scope s h).make fun _ => List.Subset.refl _
  | .many body, scope, s, h =>
    (upheld_buildWith hn body scope s h).make fun _ => List.Subset.refl _
  | .optional body, scope, s, h =>
    (upheld_buildWith hn body scope s h).make fun _ => List.Subset.refl _
  | .deferred _, _, _, h => upheld_deferred h
  | .rule name, scope, s, h => hn name scope s h
  | .bind _ definition body, scope, s, h =>
    (upheld_buildWith hn definition scope s h).andThen fun _ t hg hp =>
      upheld_buildWith hn body _ t ((h.grown hg).cons hp)
  | .recursive _ _ _ body, _, _, h =>
    upheld_recursive h fun t ht => upheld_buildWith hn body _ t ht
  | .var name, scope, s, h => by
    refine ⟨.refl barred s, fun p hp x hx => ?_⟩
    cases hp
    cases hl : scope.lookup name with
    | none =>
      rw [hl] at hx
      cases hx
    | some q =>
      rw [hl] at hx
      obtain ⟨_, _, rfl, -⟩ := List.lookup_eq_some_iff.1 hl
      exact h.scope (name, q) (by simp) x hx
  | .transform _ body, scope, s, h =>
    (upheld_buildWith hn body scope s h).make fun _ => List.Subset.refl _
  | .tryTransform _ body, scope, s, h =>
    (upheld_buildWith hn body scope s h).make fun _ => List.Subset.refl _
  | .tag _ body, scope, s, h =>
    (upheld_buildWith hn body scope s h).make fun _ => List.Subset.refl _
  | .guarded _ body, scope, s, h =>
    (upheld_buildWith hn body scope s h).make fun _ => List.Subset.refl _
  | .labelled _ body, scope, s, h =>
    (upheld_buildWith hn body scope s h).make fun _ => List.Subset.refl _

theorem upheld_buildAll
    (hn : ∀ name scope s, Ready barred scope s →
      Upheld barred Parser.owns s (named name scope s)) :
    ∀ (gs : List Grammar) (scope : Scope) (s : Store), Ready barred scope s →
      Upheld barred Parser.ownsAll s (buildAll rules named scope gs s)
  | [], _, s, _ => ⟨.refl barred s, fun _ hp x hx => by cases hp; cases hx⟩
  | g :: gs, scope, s, h =>
    (upheld_buildWith hn g scope s h).andThen fun p t hg hp =>
      (upheld_buildAll hn gs scope t (h.grown hg)).andThen fun ps u hg' hps => by
        refine ⟨.refl barred u, fun qs hqs x hx => ?_⟩
        cases hqs
        rcases List.mem_append.1 hx with hx | hx
        · exact (hp x hx).grown hg'
        · exact hps x hx

end

theorem upheld_buildNamed (rules : Rules) (depth : Nat) (name : String) (scope : Scope) (s : Store)
    (h : Ready barred scope s) :
    Upheld barred Parser.owns s (buildNamed rules depth name scope s) := by
  induction depth generalizing name scope s with
  | zero => exact upheld_leaf _ fun _ hp => by cases hp; rfl
  | succ depth ih =>
    rw [buildNamed]
    cases rules.lookup name with
    | some definition => exact upheld_buildWith ih definition scope s h
    | none => exact upheld_leaf _ fun _ hp => by cases hp; rfl

/-- What is built of parts that stand stands. -/
theorem upheld_build (rules : Rules) {scope : Scope} (h : Ready barred scope s) (g : Grammar) :
    Upheld barred Parser.owns s (g.build rules scope s) :=
  upheld_buildWith (upheld_buildNamed rules rules.length) g scope s h

end

end Grammar

/-! ## Resolving -/

theorem Factory.upheld_run {factory : Factory} {barred : List Owned} {s : Store}
    (h : Store.Ready barred factory.scope s) :
    Store.Raised barred s (factory.run s).2 ∧
      (factory.run s).2.Supports barred (factory.run s).1 := by
  obtain ⟨hr, hp⟩ := Grammar.upheld_build factory.rules h factory.body
  unfold Factory.run
  split <;> rename_i hb <;> rw [hb] at hr hp
  · exact ⟨hr, hp _ rfl⟩
  · exact ⟨hr, fun x hx => absurd hx List.not_mem_nil⟩

namespace Store

/-- All rules that are there stand. -/
def Sturdy (store : Store) : Prop := ∀ j, store.Has (.slot j) → store.Stands [] (.slot j)

/-- What has stood stands. -/
structure Lasting (s t : Store) : Prop where
  sturdy : s.Sturdy → t.Sturdy
  stands : ∀ x, s.Stands [] x → t.Stands [] x

section
variable {s t u : Store}

theorem Lasting.refl (s : Store) : s.Lasting s := ⟨id, fun _ => id⟩

theorem Lasting.trans (h : s.Lasting t) (h' : t.Lasting u) : s.Lasting u :=
  ⟨h'.sturdy ∘ h.sturdy, fun x hx => h'.stands x (h.stands x hx)⟩

theorem Lasting.of_eq (hs : t.slots = s.slots) (hc : t.cells = s.cells) : s.Lasting t where
  sturdy h j hj := (h j (by rwa [has_congr hs hc] at hj)).of_eq hs hc
  stands _ hx := hx.of_eq hs hc

theorem Raised.lasting (h : Raised [] s t) : s.Lasting t where
  sturdy hs j hj := by
    rcases Nat.lt_or_ge j s.slots.size with hlt | hge
    · exact (hs j ((h.grown.has_slot_iff hlt).1 hj)).grown h.grown
    · exact h.slot j hge hj
  stands _ hx := hx.grown h.grown

section
variable {cell : Nat} {factory : Factory} {p : Parser} {x : Owned}

theorem ownedBy_fillCell (hx : x ≠ .cell cell) :
    (s.fillCell cell factory p).ownedBy x = s.ownedBy x := by
  cases x with
  | cell i =>
    have hi : cell ≠ i := fun h => hx (h ▸ rfl)
    simp only [ownedBy, fillCell, Array.getElem?_setIfInBounds, if_neg hi]
  | slot j => rfl

theorem has_fillCell (x : Owned) : (s.fillCell cell factory p).Has x = s.Has x := by
  cases x <;> simp [Has, fillCell]

/-- What stands without a cell stands when the cell is filled. -/
theorem Stands.fillCell_of_avoid (h : s.Stands [.cell cell] x) :
    (s.fillCell cell factory p).Stands [] x :=
  h.congr (List.nil_subset _) fun y hb hy =>
    ⟨by rwa [has_fillCell], by
      rw [ownedBy_fillCell (by simpa using hb)]
      exact List.Subset.refl _⟩

variable (hc : s.cells[cell]? = some ⟨factory, none⟩)
include hc

theorem ownedBy_fillCell_self :
    (s.fillCell cell factory p).ownedBy (.cell cell) = p.owns ++ s.ownedBy (.cell cell) := by
  have hcell : (s.fillCell cell factory p).cells[cell]? = some ⟨factory, some p⟩ := by
    simp [fillCell, (Array.getElem?_eq_some_iff.1 hc).1]
  rw [ownedBy_cell hcell, ownedBy_cell hc]
  rfl

/-- What has stood stands when a cell is filled with a parser that stands without the cell. -/
theorem Stands.fillCell (h : s.Stands [] x) (hp : s.Supports [.cell cell] p) :
    (s.fillCell cell factory p).Stands [] x := by
  induction h with
  | @mk x _ hx _ ih =>
    refine .mk List.not_mem_nil (by rwa [has_fillCell]) fun y hy => ?_
    by_cases heq : x = .cell cell
    · subst heq
      rw [ownedBy_fillCell_self hc, List.mem_append] at hy
      obtain hy | hy := hy
      · exact (hp y hy).fillCell_of_avoid
      · exact ih y hy
    · rw [ownedBy_fillCell heq] at hy
      exact ih y hy

end

/-- Where a cell stands, resolving it leaves all standing, and gives a parser that stands. -/
theorem lasting_resolve {cell : Nat} (h : s.Stands [] (.cell cell)) :
    s.Lasting (s.resolve cell).2 ∧ (s.resolve cell).2.Supports [] (s.resolve cell).1 := by
  obtain ⟨p, hp⟩ | ⟨factory, hf⟩ | hle := s.cell_cases cell
  · obtain ⟨⟨factory, parser?⟩, hc, heq⟩ := Option.bind_eq_some_iff.1 hp
    obtain rfl : parser? = some p := heq
    rw [resolve_of_filled hp]
    refine ⟨.refl s, fun x hx => h.owned ?_⟩
    rw [ownedBy_cell hc]
    exact List.mem_append_left _ hx
  · have hlt := (Array.getElem?_eq_some_iff.1 hf).1
    have hbefore : s.Lasting s.beforeFactory := .of_eq rfl rfl
    have hready : Ready [.cell cell] factory.scope s.beforeFactory := by
      refine ⟨List.forall_mem_singleton.2 hlt, fun a ha x hx =>
        (hbefore.stands _ h).avoid_self ?_⟩
      rw [show s.beforeFactory.ownedBy (.cell cell) = _ from ownedBy_cell hf]
      exact Parser.mem_ownsAll_iff.2 ⟨a.2, List.mem_map_of_mem ha, hx⟩
    obtain ⟨hr, hp⟩ := factory.upheld_run hready
    have hc : (factory.run s.beforeFactory).2.cells[cell]? = some ⟨factory, none⟩ := by
      rw [hr.grown.cells cell hlt]
      exact hf
    rw [resolve_of_empty hf]
    have hlast : ∀ x, s.Stands [] x → ((factory.run s.beforeFactory).2.fillCell cell factory
        (factory.run s.beforeFactory).1).Stands [] x := fun x hx =>
      ((hbefore.stands x hx).grown hr.grown).fillCell hc hp
    refine ⟨⟨fun hs j hj => ?_, hlast⟩, fun x hx => (hp x hx).fillCell_of_avoid⟩
    rcases Nat.lt_or_ge j s.slots.size with hj' | hj'
    · exact hlast _ (hs j ((hr.grown.has_slot_iff hj').1 hj))
    · exact (hr.slot j hj' hj).fillCell_of_avoid
  · exact absurd h.has (Nat.not_lt.2 hle)

/-! ## Collecting -/

section
variable {roots : List Parser} {barred : List Owned} {x : Owned}

theorem Owns.mono {roots' : List Parser} (h : s.Owns roots x) (hr : roots ⊆ roots') :
    s.Owns roots' x := by
  induction h with
  | root hx =>
    obtain ⟨p, hp, hx⟩ := Parser.mem_ownsAll_iff.1 hx
    exact .root (Parser.mem_ownsAll_iff.2 ⟨p, hr hp, hx⟩)
  | step _ hy ih => exact .step ih hy

/-- Without parsers nothing is owned. -/
theorem not_owns_nil (s : Store) (x : Owned) : ¬ s.Owns [] x := by
  intro h
  induction h with
  | root hx => cases hx
  | step _ _ ih => exact ih

theorem Owns.of_eq (h : s.Owns roots x) (hs : t.slots = s.slots) (hc : t.cells = s.cells) :
    t.Owns roots x := by
  induction h with
  | root hx => exact .root hx
  | step _ hy ih => exact .step ih (by rwa [ownedBy_congr hs hc])

theorem ownedBy_collect (h : s.Owns roots x) :
    (s.collect roots).ownedBy x = s.ownedBy x := by
  cases x with
  | cell i => rfl
  | slot j => rw [ownedBy, ownedBy, (s.slots_collect roots j).1 h]

theorem owns_collect (h : s.Owns roots x) : (s.collect roots).Owns roots x := by
  induction h with
  | root hx => exact .root hx
  | step hx hy ih => exact .step ih (by rwa [ownedBy_collect hx])

/-- What stands and is owned is kept. -/
theorem Stands.collect (h : s.Stands barred x) (ho : s.Owns roots x) :
    (s.collect roots).Stands barred x := by
  induction h with
  | @mk x hb hx _ ih =>
    refine .mk hb ?_ fun y hy => ?_
    · cases x with
      | cell i => exact hx
      | slot j =>
        obtain ⟨body, hbody⟩ := hx
        exact ⟨body, by rw [(s.slots_collect roots j).1 ho, hbody]⟩
    · rw [ownedBy_collect ho] at hy
      exact ih y hy (.step ho hy)

/-- A rule that is there after collecting was there before and is owned. -/
theorem has_slot_of_collect {j : Nat} (h : (s.collect roots).Has (.slot j)) :
    s.Has (.slot j) ∧ s.Owns roots (.slot j) := by
  obtain ⟨body, hb⟩ := h
  by_cases ho : s.Owns roots (.slot j)
  · exact ⟨⟨body, by rw [← (s.slots_collect roots j).1 ho, hb]⟩, ho⟩
  · rw [(s.slots_collect roots j).2 ho, Option.map_eq_some_iff] at hb
    obtain ⟨_, -, hb⟩ := hb
    cases hb

theorem Sturdy.collect (h : s.Sturdy) (roots : List Parser) : (s.collect roots).Sturdy :=
  fun j hj =>
    let ⟨hs, ho⟩ := has_slot_of_collect hj
    (h j hs).collect ho

end

end

end Store

end Descent
