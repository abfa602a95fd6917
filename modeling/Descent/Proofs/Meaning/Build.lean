import Descent.Proofs.Meaning.Legend
import Descent.Proofs.Parser.Building

/-!
# Building keeps the meaning

Building only adds cells and slots (`grown_build`), comes to an error just where the definition has
a fault (`error?_build`), and otherwise gives a parser that was built from the definition
(`builds`). So the parser of a cell, built or found there, is one of the deferred definition
(`Sound.resolve`).
-/

namespace Descent

namespace Grammar

/-! ## When building fails -/

/-- The error, if there is one. -/
def error? {α : Type} : Except GrammarError α → Option GrammarError
  | .ok _ => none
  | .error error => some error

@[simp] theorem error?_ok {α : Type} (a : α) : error? (.ok a) = none := rfl

@[simp] theorem error?_error {α : Type} (error : GrammarError) :
    error? (.error error : Except GrammarError α) = some error := rfl

theorem error?_andThen {α β : Type} (r : Except GrammarError α × Store)
    (next : α → Store → Except GrammarError β × Store) {error : Option GrammarError}
    (h : ∀ a store, r = (.ok a, store) → error? (next a store).1 = error) :
    error? (andThen r next).1 = (error? r.1).or error := by
  match r with
  | (.ok a, store) => simpa [andThen] using h a store rfl
  | (.error e, store) => simp [andThen]

section
variable {rules : Rules} {named : String → Scope → Build} {named? : String → Option GrammarError}

theorem error?_wrap (make : Parser → Parser) (build : Build) (store : Store) :
    error? (wrap make build store).1 = error? (build store).1 := by
  rw [wrap, error?_andThen _ _ fun _ _ _ => error?_ok _, Option.or_none]

mutual

/-- Building fails where the definition has a fault. -/
theorem error?_buildWith
    (hn : ∀ name scope (store : Store), error? (named name scope store).1 = named? name) :
    ∀ (g : Grammar) (scope : Scope) (store : Store),
      error? (buildWith rules named scope g store).1 = g.faultWith named?
  | .literal _, _, _ => rfl
  | .charClass _ _, _, _ => rfl
  | .pattern expression ignoreCase, _, _ => by
    simp only [buildWith, faultWith]
    cases Pattern.compile? expression ignoreCase <;> rfl
  | .custom _, _, _ => rfl
  | .sequence parts, scope, store => by
    rw [buildWith, error?_andThen _ _ fun _ _ _ => error?_ok _, Option.or_none, faultWith]
    exact error?_buildAll hn parts scope store
  | .choice parts, scope, store => by
    rw [buildWith, error?_andThen _ _ fun _ _ _ => error?_ok _, Option.or_none, faultWith]
    exact error?_buildAll hn parts scope store
  | .many body, scope, store => by
    rw [buildWith, error?_wrap, faultWith, error?_buildWith hn body]
  | .optional body, scope, store => by
    rw [buildWith, error?_wrap, faultWith, error?_buildWith hn body]
  | .deferred _, _, _ => rfl
  | .rule name, scope, store => hn name scope store
  | .bind name definition body, scope, store => by
    rw [buildWith, faultWith, ← error?_buildWith hn definition scope store]
    exact error?_andThen _ _ fun p store' _ => error?_buildWith hn body _ store'
  | .recursive name exposed probed body, scope, store => by
    have h := error?_buildWith hn body ((name, .handle store.slots.size) :: scope)
      (openRule name exposed probed store)
    rw [buildWith_recursive, faultWith, ← h]
    split <;> rename_i hb <;> simp [hb]
  | .var _, _, _ => rfl
  | .transform _ body, scope, store => by
    rw [buildWith, error?_wrap, faultWith, error?_buildWith hn body]
  | .tryTransform _ body, scope, store => by
    rw [buildWith, error?_wrap, faultWith, error?_buildWith hn body]
  | .tag _ body, scope, store => by
    rw [buildWith, error?_wrap, faultWith, error?_buildWith hn body]
  | .guarded _ body, scope, store => by
    rw [buildWith, error?_wrap, faultWith, error?_buildWith hn body]
  | .labelled _ body, scope, store => by
    rw [buildWith, error?_wrap, faultWith, error?_buildWith hn body]

theorem error?_buildAll
    (hn : ∀ name scope (store : Store), error? (named name scope store).1 = named? name) :
    ∀ (gs : List Grammar) (scope : Scope) (store : Store),
      error? (buildAll rules named scope gs store).1 = faultAll named? gs
  | [], _, _ => rfl
  | g :: gs, scope, store => by
    rw [buildAll, faultAll, ← error?_buildWith hn g scope store]
    refine error?_andThen _ _ fun p store' _ => ?_
    rw [error?_andThen _ _ fun _ _ _ => error?_ok _, Option.or_none]
    exact error?_buildAll hn gs scope store'

end

end

theorem error?_buildNamed (rules : Rules) (depth : Nat) (name : String) (scope : Scope)
    (store : Store) :
    error? (buildNamed rules depth name scope store).1 = faultNamed rules depth name := by
  induction depth generalizing name scope store with
  | zero => rfl
  | succ depth ih =>
    rw [buildNamed, faultNamed]
    cases rules.lookup name with
    | some definition => exact error?_buildWith ih definition scope store
    | none => rfl

theorem error?_build (rules : Rules) (scope : Scope) (g : Grammar) (store : Store) :
    error? (g.build rules scope store).1 = g.fault rules :=
  error?_buildWith (error?_buildNamed rules rules.length) g scope store

/-! ## What building gives -/

/-- What the build makes in the scope was built from `c`, and it leaves a sound store. -/
def Builds (rules : Rules) (build : Build) (scope : Scope) (c : Closure) : Prop :=
  ∀ (O : List Nat) (L : Legend) (E : List Nat) (store : Store) (p : Parser) (store' : Store),
    build store = (.ok p, store') → Sound rules O L store → ScopeBuilt rules L E scope c.scope →
    ∃ L', L.Le L' ∧ Sound rules O L' store' ∧ Built rules L' E p c

theorem exists_of_andThen_eq_ok {α β : Type} {r : Except GrammarError α × Store}
    {next : α → Store → Except GrammarError β × Store} {b : β} {store' : Store}
    (h : andThen r next = (.ok b, store')) :
    ∃ a store, r = (.ok a, store) ∧ next a store = (.ok b, store') := by
  match r with
  | (.ok a, store) => exact ⟨a, store, rfl, h⟩
  | (.error e, store) => cases h

section
variable {rules : Rules} {named : String → Scope → Build} {scope : Scope} {c : Closure}

/-- A leaf uses up nothing. -/
theorem builds_of_built {p : Parser}
    (h : ∀ L E, ScopeBuilt rules L E scope c.scope → Built rules L E p c) :
    Builds rules (fun store => (.ok p, store)) scope c := by
  intro O L E store q store' hb hs hsc
  cases hb
  exact ⟨L, .refl L, hs, h L E hsc⟩

theorem builds_wrap {make : Parser → Parser} {build : Build} {g : Grammar}
    (h : Builds rules build scope (c.inner g))
    (hm : ∀ L E p, Built rules L E p (c.inner g) → Built rules L E (make p) c) :
    Builds rules (wrap make build) scope c := by
  intro O L E store q store' hb hs hsc
  obtain ⟨p, store₁, h₁, h₂⟩ := exists_of_andThen_eq_ok hb
  cases h₂
  obtain ⟨L', hL, hs', hp⟩ := h O L E store p _ h₁ hs hsc
  exact ⟨L', hL, hs', hm L' E p hp⟩

theorem builds_deferred (store : Store) {body : Grammar} {d : Nat} {ρ : List (String × Closure)}
    {O : List Nat} {L : Legend} {E : List Nat} (hs : Sound rules O L store)
    (hsc : ScopeBuilt rules L E scope ρ) :
    ∃ L', L.Le L' ∧ Sound rules O L' (store.addCell ⟨body, rules, scope⟩) ∧
      Built rules L' E (.deferred store.cells.size) ⟨.deferred body, d, ρ⟩ := by
  let e : Entry := ⟨⟨.deferred body, d, ρ⟩, E⟩
  refine ⟨L.addCell (some e), L.le_addCell _,
    hs.addCell ⟨rfl, rfl, hsc, fun p hp => nomatch hp⟩, ?_⟩
  refine Built.deferred (e := e) ?_ (List.Subset.refl _)
  simp [Legend.addCell, ← hs.cells_length]

theorem builds_recursive {name : String} {exposed probed : Bool} {body : Grammar} {d : Nat}
    {ρ : List (String × Closure)}
    (h : ∀ slot, Builds rules (buildWith rules named ((name, .handle slot) :: scope) body)
      ((name, .handle slot) :: scope)
      ⟨body, d, (name, ⟨.recursive name exposed probed body, d, ρ⟩) :: ρ⟩) :
    Builds rules (buildWith rules named scope (.recursive name exposed probed body)) scope
      ⟨.recursive name exposed probed body, d, ρ⟩ := by
  intro O L E store q store' hb hs hsc
  rw [buildWith_recursive] at hb
  split at hb
  · rename_i p store₂ hbody
    cases hb
    let e : Entry := ⟨⟨.recursive name exposed probed body, d, ρ⟩, E⟩
    have hs₁ := (hs.addSlot e).congr (slots_openRule name exposed probed store)
      (cells_openRule name exposed probed store)
    have he : (L.addSlot (some e)).slots[store.slots.size]? = some (some e) := by
      simp [Legend.addSlot, ← hs.slots_length]
    have hE : E ⊆ store.slots.size :: E := List.subset_cons_self _ _
    obtain ⟨L₂, hL, hs₂, hp⟩ := h _ _ _ (store.slots.size :: E) _ _ _ hbody hs₁
      (.cons ⟨rfl, .handle (e := e) he List.mem_cons_self⟩ (hsc.mono (L.le_addSlot _) hE))
    have he₂ := hL.slots _ _ he
    exact ⟨L₂, (L.le_addSlot _).trans hL,
      (hs₂.install he₂ (.means .recursive hp)).congr rfl rfl,
      .rule he₂ (List.Subset.refl _)⟩
  · cases hb

mutual

theorem builds_buildWith {d : Nat}
    (hn : ∀ name scope ρ, Builds rules (named name scope) scope ⟨.rule name, d, ρ⟩) :
    ∀ (g : Grammar) (scope : Scope) (ρ : List (String × Closure)),
      Builds rules (buildWith rules named scope g) scope ⟨g, d, ρ⟩
  | .literal _, _, _ => builds_of_built fun _ _ _ => .literal rfl
  | .charClass _ _, _, _ => builds_of_built fun _ _ _ => .charClass rfl
  | .pattern expression ignoreCase, _, _ => by
    intro O L E store p store' hb hs hsc
    simp only [buildWith] at hb
    split at hb
    · cases hb
      exact ⟨L, .refl L, hs, .pattern rfl ‹_›⟩
    · cases hb
  | .custom _, _, _ => builds_of_built fun _ _ _ => .custom rfl
  | .sequence parts, scope, ρ => by
    intro O L E store p store' hb hs hsc
    obtain ⟨ps, store₁, h₁, h₂⟩ := exists_of_andThen_eq_ok hb
    cases h₂
    obtain ⟨L', hL, hs', hl, hp⟩ := builds_buildAll hn parts scope ρ O L E store ps _ h₁ hs hsc
    exact ⟨L', hL, hs', .sequence rfl hl hp⟩
  | .choice parts, scope, ρ => by
    intro O L E store p store' hb hs hsc
    obtain ⟨ps, store₁, h₁, h₂⟩ := exists_of_andThen_eq_ok hb
    cases h₂
    obtain ⟨L', hL, hs', hl, hp⟩ := builds_buildAll hn parts scope ρ O L E store ps _ h₁ hs hsc
    exact ⟨L', hL, hs', .choice rfl hl hp⟩
  | .many body, scope, ρ => builds_wrap (builds_buildWith hn body scope ρ) fun _ _ _ => .many rfl
  | .optional body, scope, ρ =>
    builds_wrap (builds_buildWith hn body scope ρ) fun _ _ _ => .optional rfl
  | .deferred body, scope, ρ => by
    intro O L E store p store' hb hs hsc
    cases hb
    exact builds_deferred store hs hsc
  | .rule name, scope, ρ => hn name scope ρ
  | .bind name definition body, scope, ρ => by
    intro O L E store p store' hb hs hsc
    obtain ⟨q, store₁, h₁, h₂⟩ := exists_of_andThen_eq_ok hb
    obtain ⟨L₁, hL₁, hs₁, hq⟩ := builds_buildWith hn definition scope ρ O L E _ _ _ h₁ hs hsc
    -- the body sees what was in scope before, and the new name
    have hsc₁ := hsc.mono hL₁ (List.Subset.refl E)
    obtain ⟨L₂, hL₂, hs₂, hp⟩ := builds_buildWith hn body _
      ((name, ⟨definition, d, ρ⟩) :: ρ) O L₁ E _ _ _ h₂ hs₁ (.cons ⟨rfl, hq⟩ hsc₁)
    exact ⟨L₂, hL₁.trans hL₂, hs₂, .means .bind hp⟩
  | .recursive name exposed probed body, scope, ρ =>
    builds_recursive fun slot => builds_buildWith hn body ((name, .handle slot) :: scope) _
  | .var name, scope, ρ => by
    refine builds_of_built fun L E hsc => ?_
    rcases hsc.lookup name with ⟨hp, hc⟩ | ⟨p, c, hp, hc, hb⟩
    · rw [hp]
      exact .dangles (.var hc)
    · rw [hp]
      exact .means (.var hc) hb
  | .transform _ body, scope, ρ =>
    builds_wrap (builds_buildWith hn body scope ρ) fun _ _ _ => .transform rfl
  | .tryTransform _ body, scope, ρ =>
    builds_wrap (builds_buildWith hn body scope ρ) fun _ _ _ => .tryTransform rfl
  | .tag _ body, scope, ρ => builds_wrap (builds_buildWith hn body scope ρ) fun _ _ _ => .tag rfl
  | .guarded _ body, scope, ρ =>
    builds_wrap (builds_buildWith hn body scope ρ) fun _ _ _ => .guarded rfl
  | .labelled _ body, scope, ρ =>
    builds_wrap (builds_buildWith hn body scope ρ) fun _ _ _ => .labelled rfl

theorem builds_buildAll {d : Nat}
    (hn : ∀ name scope ρ, Builds rules (named name scope) scope ⟨.rule name, d, ρ⟩) :
    ∀ (gs : List Grammar) (scope : Scope) (ρ : List (String × Closure)) (O : List Nat)
      (L : Legend) (E : List Nat) (store : Store) (ps : List Parser) (store' : Store),
      buildAll rules named scope gs store = (.ok ps, store') → Sound rules O L store →
      ScopeBuilt rules L E scope ρ →
      ∃ L', L.Le L' ∧ Sound rules O L' store' ∧ ps.length = gs.length ∧
        ∀ (i : Nat) p g, ps[i]? = some p → gs[i]? = some g → Built rules L' E p ⟨g, d, ρ⟩
  | [], _, _, _, L, _, _, _, _, hb, hs, _ => by
    cases hb
    exact ⟨L, .refl L, hs, rfl, fun i p g hp => by simp at hp⟩
  | g :: gs, scope, ρ, O, L, E, store, ps, store', hb, hs, hsc => by
    obtain ⟨p, store₁, h₁, h₂⟩ := exists_of_andThen_eq_ok hb
    obtain ⟨qs, store₂, h₃, h₄⟩ := exists_of_andThen_eq_ok h₂
    cases h₄
    obtain ⟨L₁, hL₁, hs₁, hp⟩ := builds_buildWith hn g scope ρ O L E _ _ _ h₁ hs hsc
    obtain ⟨L₂, hL₂, hs₂, hl, hps⟩ := builds_buildAll hn gs scope ρ O L₁ E _ _ _ h₃ hs₁
      (hsc.mono hL₁ (List.Subset.refl _))
    refine ⟨L₂, hL₁.trans hL₂, hs₂, by simp [hl], fun i q g' hq hg => ?_⟩
    cases i with
    | zero =>
      cases hq
      cases hg
      exact hp.mono hL₂ (List.Subset.refl _)
    | succ i => exact hps i q g' hq hg

end

theorem builds_buildNamed (rules : Rules) (depth : Nat) (name : String) (scope : Scope)
    (ρ : List (String × Closure)) :
    Builds rules (buildNamed rules depth name scope) scope ⟨.rule name, depth, ρ⟩ := by
  induction depth generalizing name scope ρ with
  | zero => exact builds_of_built fun _ _ _ => .dangles (.rule (.inl rfl))
  | succ depth ih =>
    rw [buildNamed]
    cases hl : rules.lookup name with
    | some definition =>
      intro O L E store p store' hb hs hsc
      obtain ⟨L', hL, hs', hp⟩ := builds_buildWith ih definition scope ρ O L E _ _ _ hb hs hsc
      exact ⟨L', hL, hs', .means (.rule hl) hp⟩
    | none => exact builds_of_built fun _ _ _ => .dangles (.rule (.inr hl))

/-- Building gives a parser that was built from the definition. -/
theorem builds (rules : Rules) (scope : Scope) (g : Grammar) (ρ : List (String × Closure)) :
    Builds rules (g.build rules scope) scope ⟨g, rules.length, ρ⟩ :=
  builds_buildWith (builds_buildNamed rules rules.length) g scope ρ

end

end Grammar

/-! ## Resolving cells -/

/-- The legend of a store that has grown by what nothing refers to. -/
def Legend.pad (L : Legend) (store : Store) : Legend where
  slots := L.slots ++ List.replicate (store.slots.size - L.slots.length) none
  cells := L.cells ++ List.replicate (store.cells.size - L.cells.length) none

theorem Legend.le_pad (L : Legend) (store : Store) : L.Le (L.pad store) :=
  ⟨fun _ _ h => getElem?_append_of_some h, fun _ _ h => getElem?_append_of_some h⟩

theorem Legend.getElem?_of_append_none {l : List (Option Entry)} {n i : Nat} {e : Entry}
    (h : (l ++ List.replicate n none)[i]? = some (some e)) : l[i]? = some (some e) := by
  rcases Nat.lt_or_ge i l.length with hlt | hge
  · rwa [List.getElem?_append_left hlt] at h
  · rw [List.getElem?_append_right hge, List.getElem?_replicate] at h
    split at h <;> simp at h

/-- What building that fails leaves behind is referred to by nothing. -/
theorem Sound.pad {rules : Rules} {O : List Nat} {L : Legend} {store store' : Store}
    (h : Sound rules O L store) (hg : store.Grown store') :
    Sound rules O (L.pad store') store' := by
  have hL := L.le_pad store'
  have hs := h.slots_length
  have hc := h.cells_length
  have hsg := hg.slots_size
  have hcg := hg.cells_size
  refine ⟨by simp [Legend.pad]; omega, by simp [Legend.pad]; omega, fun j e hj hO => ?_,
    fun i e hi => ?_⟩
  · have hj' := Legend.getElem?_of_append_none hj
    have hlt := (List.getElem?_eq_some_iff.1 hj').1
    obtain ⟨p, hp, hf⟩ := h.slot j e hj' hO
    exact ⟨p, by rw [hg.slots j (by omega), hp], hf.mono hL (List.Subset.refl _)⟩
  · have hi' := Legend.getElem?_of_append_none hi
    have hlt := (List.getElem?_eq_some_iff.1 hi').1
    obtain ⟨cell, hp, hs⟩ := h.cell i e hi'
    exact ⟨cell, by rw [hg.cells i (by omega), hp], hs.mono hL⟩

/-- Running a factory gives a parser of the deferred definition. -/
theorem Sound.run {rules : Rules} {O : List Nat} {L : Legend} {store : Store}
    (h : Sound rules O L store) {e : Entry} {cell : Cell} (hc : CellSound rules L e cell) :
    ∃ L', L.Le L' ∧ Sound rules O L' (cell.factory.run store).2 ∧
      Filled rules L' e.within (cell.factory.run store).1 e.closure ∧
      (cell.factory.run store).2.tracker = store.tracker := by
  obtain ⟨⟨g, d, ρ⟩, E⟩ := e
  obtain ⟨⟨body, rules', scope⟩, parser?⟩ := cell
  obtain ⟨hr, hg, hsc, -⟩ := hc
  dsimp only at hr hg hsc
  subst hr hg
  have herr := Grammar.error?_build rules' scope body store
  have hgrown := Grammar.grown_build rules' scope body store
  unfold Factory.run
  dsimp only
  split
  · rename_i p store' hb
    rw [hb] at herr hgrown
    obtain ⟨L', hL, hs, hp⟩ := Grammar.builds rules' scope body ρ O L E store p store' hb h hsc
    exact ⟨L', hL, hs, .means (.deferred herr.symm) hp, hgrown.tracker⟩
  · rename_i error store' hb
    rw [hb] at herr hgrown
    exact ⟨L.pad store', L.le_pad store', h.pad hgrown, .dangles (.deferred herr.symm),
      hgrown.tracker⟩

/-- The parser of a cell, found there or built for it, is one of the deferred definition. -/
theorem Sound.resolve {rules : Rules} {L : Legend} {store : Store} (h : Sound rules [] L store)
    {i : Nat} {e : Entry} (hi : L.cells[i]? = some (some e)) :
    ∃ L', L.Le L' ∧ Sound rules [] L' (store.resolve i).2 ∧
      Filled rules L' e.within (store.resolve i).1 e.closure ∧
      (store.resolve i).2.tracker = store.tracker := by
  obtain ⟨⟨factory, parser?⟩, hcell, hs⟩ := h.cell i e hi
  unfold Store.resolve
  rw [hcell]
  cases parser? with
  | some p => exact ⟨L, .refl L, h, hs.parser p rfl, rfl⟩
  | none =>
    have h₁ : Sound rules [] L (store.report .resolvingDeferred).countFactory := h.congr rfl rfl
    obtain ⟨L', hL, hs', hf, ht⟩ := h₁.run hs
    exact ⟨L', hL, hs'.fillCell (hL.cells _ _ hi) (hs.mono hL) hf, hf, ht⟩

end Descent
