import Descent.Proofs.Trace.Course

/-!
# Factories

The factory of a deferred parser runs when the parser is invoked for the first time, and never again
(`Workshop.factories_run_once`). Cells are made as other cells are filled, so what is shown of a run
is about all cells that there are at its end: which of them it has filled, which factories have
started, and which deferred parsers have been invoked (`Trace.Fills`).
-/

namespace Descent

namespace Trace

/-- The deferred parser of the cell is invoked. -/
def Enters (cell : Nat) (ts : List Trace) : Prop :=
  ∃ position, .entered (.deferred cell) position ∈ momentsAll ts

/-- What is filled stays as it is. The cells that get filled are those whose factories start, each
of which is counted and reported once, and all that are asked for are filled. A factory starts where
its deferred parser is invoked, if not before the first of the traces. -/
structure Fills (s t : Store) (ts : List Trace) : Prop where
  kept : ∀ cell p, s.parser? cell = some p → t.parser? cell = some p
  count : ∀ cell, (t.parser? cell).isSome.toNat =
    (s.parser? cell).isSome.toNat + (started ts).count cell
  entered : ∀ cell, Enters cell ts → (t.parser? cell).isSome
  asked : ∀ cell ∈ started ts, Enters cell ts ∨ .factory cell ∈ ts
  filled : t.filled = s.filled + (started ts).length
  built : t.built = s.built + (started ts).length
  reported : t.events.count .resolvingDeferred =
    s.events.count .resolvingDeferred + (started ts).length

theorem enters_append_iff {cell : Nat} {ts us : List Trace} :
    Enters cell (ts ++ us) ↔ Enters cell ts ∨ Enters cell us := by
  simp [Enters, exists_or]

theorem enters_call_iff {cell : Nat} {p : Parser} {position : Nat} {inner : List Trace}
    {step : Step} {t : Store} :
    Enters cell [call p position inner step t] ↔ p = .deferred cell ∨ Enters cell inner := by
  simp [Enters, moments_call, exists_or, eq_comm]

section
variable {s t u : Store} {ts us : List Trace}

/-- Nothing is asked for. -/
theorem Fills.of_eq (hparser : ∀ cell, t.parser? cell = s.parser? cell)
    (hfilled : t.filled = s.filled) (hbuilt : t.built = s.built)
    (hevents : t.events.count .resolvingDeferred = s.events.count .resolvingDeferred)
    (hts : ∀ x ∈ ts, ∃ e, x = .event e) : Fills s t ts := by
  have hmoments : ∀ m ∈ momentsAll ts, ∃ e, m = .reported e := by
    intro m hm
    obtain ⟨x, hx, hm⟩ := mem_momentsAll_iff.1 hm
    obtain hx | ⟨hx, -⟩ := hx
    · obtain ⟨e, rfl⟩ := hts _ hx
      exact ⟨e, List.mem_singleton.1 hm⟩
    · obtain ⟨e, he⟩ := hts _ hx
      cases he
  have hstarted : started ts = [] := by
    rw [started, List.filterMap_eq_nil_iff]
    intro m hm
    obtain ⟨e, rfl⟩ := hmoments m hm
    rfl
  refine ⟨fun cell p hp => by rw [hparser, hp], fun cell => by simp [hparser, hstarted],
    fun cell he => ?_, by simp [hstarted], by simp [hfilled, hstarted],
    by simp [hbuilt, hstarted], by simp [hevents, hstarted]⟩
  obtain ⟨_, hm⟩ := he
  obtain ⟨e, he⟩ := hmoments _ hm
  cases he

theorem Fills.nil (s : Store) : Fills s s [] :=
  .of_eq (fun _ => rfl) rfl rfl rfl nofun

theorem Fills.append (h : Fills s t ts) (h' : Fills t u us) : Fills s u (ts ++ us) where
  kept cell p hp := h'.kept cell p (h.kept cell p hp)
  count cell := by rw [h'.count, h.count, started_append, List.count_append, Nat.add_assoc]
  entered cell he := by
    obtain he | he := enters_append_iff.1 he
    · obtain ⟨p, hp⟩ := Option.isSome_iff_exists.1 (h.entered cell he)
      rw [h'.kept cell p hp, Option.isSome_some]
    · exact h'.entered cell he
  asked cell hc := by
    rw [started_append, List.mem_append] at hc
    rw [enters_append_iff, List.mem_append]
    obtain hc | hc := hc
    · exact (h.asked cell hc).imp .inl .inl
    · exact (h'.asked cell hc).imp .inr .inr
  filled := by rw [h'.filled, h.filled, started_append, List.length_append, Nat.add_assoc]
  built := by rw [h'.built, h.built, started_append, List.length_append, Nat.add_assoc]
  reported := by rw [h'.reported, h.reported, started_append, List.length_append, Nat.add_assoc]

/-- An empty cell is filled, and what its factory makes has empty cells only. -/
theorem fills_resolving (cell : Nat) (s : Store) :
    Fills s (s.resolve cell).2 (s.resolving cell) := by
  obtain ⟨hs, hnil⟩ | ⟨factory, hf⟩ := s.idle_or_empty cell
  · rw [hs, hnil]
    exact .nil s
  · have hx := factory.extended_run s.beforeFactory
    have hlt : cell < (factory.run s.beforeFactory).2.cells.size :=
      Nat.lt_of_lt_of_le (Array.getElem?_eq_some_iff.1 hf).1 hx.grown.cells_size
    have hempty : (factory.run s.beforeFactory).2.cells[cell]? = some ⟨factory, none⟩ := by
      rw [hx.grown.cells cell (Array.getElem?_eq_some_iff.1 hf).1]
      exact hf
    have hnone : s.parser? cell = none := by rw [Store.parser?, hf]; rfl
    have hparser : ∀ i, (s.resolve cell).2.parser? i =
        if i = cell then some (factory.run s.beforeFactory).1 else s.parser? i := by
      intro i
      rw [Store.resolve_of_empty hf, Store.parser?_fillCell hlt, hx.parser?]
      rfl
    have hstarted := Store.started_resolving hf
    obtain ⟨n, hn, hevents⟩ := Store.resolving_of_empty hf
    refine ⟨fun i p hp => ?_, fun i => ?_, fun i he => ?_, fun i hi => .inr ?_, ?_, ?_, ?_⟩
    · rw [hparser, if_neg (by rintro rfl; rw [hnone] at hp; cases hp), hp]
    · rw [hparser, hstarted]
      by_cases hi : i = cell
      · subst hi
        simp [hnone]
      · simp [hi, Ne.symm hi]
    · obtain ⟨position, hm⟩ := he
      simp [hn] at hm
    · rw [hstarted, List.mem_singleton] at hi
      simp [hn, hi]
    · rw [hstarted, Store.resolve_of_empty hf, Store.filled_fillCell hempty, hx.filled]
      rfl
    · rw [hstarted, Store.resolve_of_empty hf]
      exact hx.built
    · rw [hstarted, hevents, Array.count_append]
      simp [List.count_replicate]

theorem eq_of_factory_mem_resolving {cell i : Nat} (h : .factory cell ∈ s.resolving i) :
    cell = i := by
  obtain ⟨-, hnil⟩ | ⟨factory, hf⟩ := s.idle_or_empty i
  · rw [hnil] at h
    cases h
  · obtain ⟨n, hn, -⟩ := Store.resolving_of_empty hf
    simpa [hn] using h

/-- An invocation asks for what is asked for inside it, and a deferred parser for its own cell. -/
theorem Fills.call {input : List Char} {p : Parser} {position : Nat} {inner : List Trace}
    {step : Step} (h : Fills s t inner) (hp : s.Carries p)
    (ht : p.Traces input position s inner step (p.conclude position step t)) :
    Fills s (p.conclude position step t) [.call p position inner step (p.conclude position step t)]
    where
  kept cell q hq := by
    rw [Store.parser?_congr (Parser.cells_conclude ..)]
    exact h.kept cell q hq
  count cell := by
    rw [Store.parser?_congr (Parser.cells_conclude ..), started_call]
    exact h.count cell
  entered cell he := by
    rw [Store.parser?_congr (Parser.cells_conclude ..)]
    obtain rfl | he := enters_call_iff.1 he
    · obtain ⟨q, hq⟩ | ⟨factory, hf⟩ | hle := s.cell_cases cell
      · rw [h.kept cell q hq, Option.isSome_some]
      · obtain ⟨ts, rfl⟩ := ht.exists_append_of_deferred
        have hcount := h.count cell
        rw [started_append, Store.started_resolving hf, List.count_append,
          List.count_singleton_self] at hcount
        cases hfilled : (t.parser? cell).isSome with
        | true => rfl
        | false =>
          rw [hfilled, Bool.toNat_false] at hcount
          omega
      · exact absurd (hp.supports _ List.mem_cons_self).has (Nat.not_lt.2 hle)
    · exact h.entered cell he
  asked cell hc := by
    rw [started_call] at hc
    refine .inl (enters_call_iff.2 ?_)
    obtain he | hmem := h.asked cell hc
    · exact .inr he
    · by_contra hne
      rw [not_or] at hne
      refine ht.all (P := (· ≠ .factory cell)) (fun _ _ _ _ _ => nofun) (fun _ _ _ => nofun)
        (fun i hi x hx heq => hne.1 ?_) _ hmem rfl
      have hfactory : .factory cell ∈ s.resolving i := heq ▸ hx
      rw [hi, eq_of_factory_mem_resolving hfactory]
  filled := by rw [Store.filled_congr (Parser.cells_conclude ..), started_call, h.filled]
  built := by rw [Parser.built_conclude, started_call, h.built]
  reported := by rw [Parser.events_conclude, started_call, h.reported]

theorem law_fills (input : List Char) :
    Law input (fun (_ : Unit) s p => s.Carries p)
      fun _ s _ _ t ts => s.Lasting t ∧ Fills s t ts where
  part := .part
  body h hq := h.elim (·.body hq) (·.body hq)
  keeps h hp := hp.lasting h.1
  nil _ s _ := ⟨.refl s, .nil s⟩
  append h h' := ⟨h.1.trans h'.1, h.2.append h'.2⟩
  stall _ s _ :=
    ⟨.of_eq rfl rfl, .of_eq (fun _ => rfl) rfl rfl (by simp [Store.report])
      (List.forall_mem_singleton.2 ⟨_, rfl⟩)⟩
  resolve {_ s cell} h :=
    have ⟨hl, hp⟩ := Store.lasting_resolve (h.supports _ List.mem_cons_self)
    ⟨(), ⟨hl, fills_resolving cell s⟩, hl.sturdy h.sturdy, hp⟩
  call hp h ht :=
    ⟨h.1.trans (.of_eq (Parser.slots_conclude ..) (Parser.cells_conclude ..)), h.2.call hp ht⟩

end

end Trace

theorem Parser.Traces.fills {input : List Char} {p : Parser} {position : Nat} {s t : Store}
    {inner : List Trace} {step : Step} (h : p.Traces input position s inner step t)
    (hp : s.Carries p) : Trace.Fills s t [.call p position inner step t] := by
  obtain ⟨_, -, hf⟩ := (Trace.law_fills input).traces (a := ()) hp h
  exact hf

/-! ## Uses -/

open Trace (Fills Enters)

namespace Store

variable {s t : Store} {offered : Parser → Prop} {ts : List Trace}

/-- Building makes empty cells only. -/
theorem Extended.fills (h : s.Extended t) : Fills s t [] := by
  obtain ⟨n, hn⟩ := h.events
  exact .of_eq h.parser? h.filled h.built (by simp [hn, Array.count_replicate]) nofun

theorem Aside.fills (h : s.Aside t) : Fills s t [] := by
  refine .of_eq (parser?_congr h.cells_eq) (filled_congr h.cells_eq) h.built_eq ?_ nofun
  cases h with
  | expect | resetTracker => rfl
  | report he =>
    change (s.events.push _).count _ = _
    rw [Array.count_push, if_neg (by simpa using he), Nat.add_zero]

theorem Plays.fills (h : s.Plays offered ts t) (hs : ∀ p, offered p → s.Carries p) :
    Fills s t ts := by
  induction h with
  | refl => exact .nil _
  | invoke hplays hp ht ih => exact ih.append (ht.fills ((hs _ hp).lasting (hplays.lasting hs)))
  | aside _ ha ih => simpa only [List.append_nil] using ih.append ha.fills

end Store

namespace Workshop

variable {v w : Workshop} {ts us : List Trace}

theorem Turn.fills (h : Turn v ts w) (hv : v.Kept) : Fills v.store w.store ts := by
  obtain ⟨store, hstore, hw⟩ := h.exists_store
  have hfills : Fills v.store store ts := by
    obtain ⟨rfl, hx⟩ | hplays := hstore
    · exact hx.fills
    · exact hplays.fills fun _ hp => hv.carries hp
  obtain hw | hw := hw
  · rw [hw]
    exact hfills
  · -- What is released is not about cells.
    have hsettle : Fills store w.store [] := by
      rw [hw]
      exact .of_eq (Store.parser?_congr rfl) (Store.filled_congr rfl) rfl rfl nofun
    simpa only [List.append_nil] using hfills.append hsettle

theorem History.fills (h : History v ts w) (hv : v.Kept) : Fills v.store w.store ts := by
  induction h with
  | refl => exact .nil _
  | turn h ht ih =>
    have hkept := h.keeps (P := Kept) (fun _ _ _ => Turn.kept) hv
    exact ih.append (ht.fills hkept)

/-- No factory runs on its own. -/
theorem History.factory_notMem (h : History v ts w) (cell : Nat) : .factory cell ∉ ts := by
  intro hmem
  obtain ⟨_, _, _, _, _, _, _, heq, -⟩ := h.invoked _ hmem
  cases heq

/-- In every workshop that one comes to, the factory of a deferred parser has run once if the parser
has been invoked, and not at all otherwise; a cell that has been filled keeps its parser. There are
as many runs of factories as filled cells, and each of them has been reported. All that happens are
invocations. Sessions are such workshops, with the invocations that they make as what happens. -/
theorem factories_run_once (h : History empty ts v) (h' : History v us w) :
    (∀ cell, (Enters cell ts → (Trace.started ts).count cell = 1) ∧
      (¬ Enters cell ts → (Trace.started ts).count cell = 0) ∧
      (Enters cell ts ↔ ∃ p, v.store.parser? cell = some p)) ∧
    (∀ cell p, v.store.parser? cell = some p → w.store.parser? cell = some p) ∧
    v.store.built = (Trace.started ts).length ∧
    v.store.built = v.store.filled ∧
    v.store.built = v.store.events.count .resolvingDeferred ∧
    v.store.built ≤ w.store.built ∧
    (∀ x ∈ ts, x.Invoked) ∧
    ∀ rules grammar options tracked s₀ store s,
      Session.start rules grammar options tracked = (.ok s₀, store) → Session.Passes s₀ s →
      (∃ ts, History empty ts ⟨s.roots, s.store⟩) ∧
        ∀ ts, History empty ts ⟨s.roots, s.store⟩ → s.Continues ts := by
  have hf := h.fills kept_empty
  have hf' := h'.fills h.kept
  have hnone : ∀ cell, empty.store.parser? cell = none := fun _ =>
    Store.parser?_of_le (Nat.zero_le _)
  have hcount : ∀ cell, (v.store.parser? cell).isSome.toNat = (Trace.started ts).count cell := by
    intro cell
    rw [hf.count, hnone, Option.isSome_none, Bool.toNat_false, Nat.zero_add]
  have hstarted : ∀ cell, ¬ Enters cell ts → (Trace.started ts).count cell = 0 := fun cell he =>
    List.count_eq_zero.2 fun hmem => (hf.asked cell hmem).elim he (h.factory_notMem cell)
  refine ⟨fun cell => ⟨fun he => ?_, hstarted cell, fun he => ?_, fun hp => ?_⟩, hf'.kept, ?_, ?_,
    ?_, ?_, h.invoked, ?_⟩
  · rw [← hcount, hf.entered cell he, Bool.toNat_true]
  · exact Option.isSome_iff_exists.1 (hf.entered cell he)
  · by_contra he
    have hc := hcount cell
    rw [Option.isSome_iff_exists.2 hp, hstarted cell he] at hc
    cases hc
  · rw [hf.built]
    exact Nat.zero_add _
  · rw [hf.built, hf.filled]
    rfl
  · rw [hf.built, hf.reported]
    rfl
  · rw [hf'.built]
    exact Nat.le_add_right _ _
  · exact fun _ _ _ _ _ _ _ hs hp => ⟨Session.exists_history hs hp, fun _ => Session.continues⟩

/-- A deferred part within the deferred definition. -/
def layered : Grammar := .deferred (.choice [.literal "x", .deferred (.literal "y")])

/-- The part within is not asked for until the one before it fails. -/
theorem factories_run_once_layered :
    ∃ (s t : Session) (ts us : List Trace), History empty ts s.workshop ∧
      History s.workshop us t.workshop ∧
      (∃ inner store, ts = [.call (.deferred 0) 0 inner (.ok (.success (.str "x") 1)) store]) ∧
      (Trace.started ts).count 0 = 1 ∧ (Trace.started ts).count 1 = 0 ∧ s.store.built = 1 ∧
      (Trace.started (ts ++ us)).count 0 = 1 ∧ (Trace.started (ts ++ us)).count 1 = 1 ∧
      t.store.built = 2 ∧ t.store.parser? 0 = s.store.parser? 0 := by
  let s₀ : Session := ⟨some { parser := .deferred 0 }, (layered.build [] [] Store.empty).2⟩
  obtain ⟨s, hs, hfilled, hempty, hbuilt, t, ht, hfilled', hbuilt'⟩ : ∃ s,
      s₀.invoke "x".toList 0 = some (.ok (.success (.str "x") 1), s) ∧
        s.store.parser? 0 = some (.choice [.literal "x", .deferred 1]) ∧
        s.store.parser? 1 = none ∧ s.store.built = 1 ∧ ∃ t,
          s.invoke "y".toList 0 = some (.ok (.success (.str "y") 1), t) ∧
            t.store.parser? 1 = some (.literal "y") ∧ t.store.built = 2 :=
    ⟨_, @Session.invoke_of_run s₀ _ _ 0 5 _ _ rfl rfl, rfl, rfl, rfl, _,
      @Session.invoke_of_run _ _ _ 0 5 _ _ rfl rfl, rfl, rfl⟩
  have hstart : Session.start [] layered {} false = (.ok s₀, s₀.store) := rfl
  have h₀ : History empty [] s₀.workshop := .turn (.refl _) (Session.turn_start hstart)
  obtain ⟨-, -, -, -, -, -, -, hsessions⟩ := factories_run_once h₀ (.refl _)
  obtain ⟨-, hcontinues⟩ := hsessions [] layered {} false s₀ _ s₀ hstart .refl
  obtain ⟨reader, inner, store, hreader, -, h⟩ := (hcontinues [] h₀).invoke _ _ _ _ hs
  obtain rfl : { parser := .deferred 0 } = reader := Option.some.inj hreader
  rw [List.nil_append] at h
  obtain ⟨us, hturn⟩ := (Session.Uses.invoke ht).exists_turn
  have h' : History s.workshop us t.workshop := .turn (.refl _) hturn
  obtain ⟨hcells, hkept, -⟩ := factories_run_once h h'
  obtain ⟨hcells', -⟩ := factories_run_once (h.trans h') (.refl _)
  have hentered := (hcells 0).2.2.2 ⟨_, hfilled⟩
  have hentered' := (hcells' 0).2.2.2 ⟨_, hkept 0 _ hfilled⟩
  have hentered₁ := (hcells' 1).2.2.2 ⟨_, hfilled'⟩
  have hleft : ¬ Enters 1 [.call (.deferred 0) 0 inner (.ok (.success (.str "x") 1)) store] := by
    intro he
    obtain ⟨p, hp⟩ := (hcells 1).2.2.1 he
    exact nomatch hempty.symm.trans hp
  exact ⟨s, t, _, us, h, h', ⟨inner, store, rfl⟩, (hcells 0).1 hentered, (hcells 1).2.1 hleft,
    hbuilt, (hcells' 0).1 hentered', (hcells' 1).1 hentered₁, hbuilt',
    (hkept 0 _ hfilled).trans hfilled.symm⟩

end Workshop

end Descent
