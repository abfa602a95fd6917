import Descent.Proofs.Parser.Standing
import Descent.Proofs.Trace.Induction
import Descent.Proofs.Trace.Uses

/-!
# Workshops

A workshop has parsers, which share a store. They are built of one another and of handles, cloned,
invoked and dropped in any order (`Workshop.Turn`), and what nobody owns any more is released. A
handle is a number that may have been passed on to anyone, so it may be used at any time.

In every workshop that one comes to, all that the parsers own stands, and all other rules are released
(`History.kept`); a rule never changes other than by being released (`History.onward`).
-/

namespace Descent

namespace Parser

theorem owns_of_mem_parts {p q : Parser} (h : q ∈ p.parts) : q.owns ⊆ p.owns := by
  intro x hx
  cases p with
  | sequence ps | choice ps => exact mem_ownsAll_iff.2 ⟨q, h, hx⟩
  | many body | optional body | transform f body | tryTransform f body | tag accepts body
  | guarded accepts body | labelled label body =>
    obtain rfl := List.mem_singleton.1 h
    exact hx
  | _ => cases h

end Parser

/-! ## What an invocation does to the store -/

namespace Store

theorem body_eq_ok_iff {s : Store} {slot : Nat} {p : Parser} :
    s.body slot = .ok p ↔ s.slots[slot]? = some (.installed p) := by
  unfold body
  split <;> rename_i hs <;> simp [hs]

/-- The parser can be invoked: all that it may come to is there. -/
structure Carries (s : Store) (p : Parser) : Prop where
  sturdy : s.Sturdy
  supports : s.Supports [] p

theorem Carries.lasting {s t : Store} {p : Parser} (h : s.Carries p) (hl : s.Lasting t) :
    t.Carries p :=
  ⟨hl.sturdy h.sturdy, fun x hx => hl.stands x (h.supports x hx)⟩

theorem Carries.part {s : Store} {p q : Parser} (h : s.Carries p) (hq : q ∈ p.parts) :
    s.Carries q :=
  ⟨h.sturdy, fun x hx => h.supports x (Parser.owns_of_mem_parts hq hx)⟩

/-- The body of a rule that is there can be invoked, also through the handle of the rule. -/
theorem Carries.body {s : Store} {p q : Parser} {slot : Nat} (h : s.Carries p)
    (hq : s.body slot = .ok q) : s.Carries q := by
  rw [body_eq_ok_iff] at hq
  exact ⟨h.sturdy, (h.sturdy slot ⟨q, hq⟩).body hq⟩

/-- The slots of `s` are those of `t`, and handles that have been invoked before the bodies of their
rules were there have come to undefined rules. -/
structure Spares (s t : Store) : Prop where
  size : s.slots.size ≤ t.slots.size
  slots : ∀ j < s.slots.size, t.slots[j]? = s.slots[j]?
  probes : ∃ n, t.probes = s.probes ++ Array.replicate n .undefinedRule

section
variable {s t u : Store}

theorem Spares.of_eq (hs : t.slots = s.slots) (hp : t.probes = s.probes) : s.Spares t :=
  ⟨by rw [hs], fun j _ => by rw [hs], 0, by simp [hp]⟩

theorem Spares.refl (s : Store) : s.Spares s := .of_eq rfl rfl

theorem Spares.trans (h : s.Spares t) (h' : t.Spares u) : s.Spares u := by
  obtain ⟨m, hm⟩ := h.probes
  obtain ⟨n, hn⟩ := h'.probes
  refine ⟨Nat.le_trans h.size h'.size, fun j hj => ?_, m + n, ?_⟩
  · rw [h'.slots j (Nat.lt_of_lt_of_le hj h.size), h.slots j hj]
  · rw [hn, hm, Array.append_assoc, Array.replicate_append_replicate]

theorem Extended.spares (h : s.Extended t) : s.Spares t :=
  ⟨h.grown.slots_size, h.grown.slots, h.probes⟩

theorem spares_resolve (cell : Nat) (s : Store) : s.Spares (s.resolve cell).2 := by
  obtain ⟨hs, -⟩ | ⟨factory, hf⟩ := s.idle_or_empty cell
  · rw [hs]
    exact .refl s
  · rw [resolve_of_empty hf]
    have hx : s.Spares s.beforeFactory := .of_eq rfl rfl
    exact (hx.trans (factory.extended_run s.beforeFactory).spares).trans (.of_eq rfl rfl)

end

end Store

namespace Parser

variable {input : List Char} {p : Parser} {position : Nat} {s t : Store} {inner : List Trace}
  {step : Step}

theorem law_spares (input : List Char) :
    Law input (fun (_ : Unit) _ _ => True) fun _ s _ _ t _ => s.Spares t where
  part _ _ := trivial
  body _ _ := trivial
  keeps _ _ := trivial
  nil _ s _ := .refl s
  append := .trans
  stall _ _ _ := .of_eq rfl rfl
  resolve {_ s cell} _ := ⟨(), s.spares_resolve cell, trivial⟩
  call _ h _ := h.trans (.of_eq (slots_conclude ..) (probes_conclude ..))

theorem Traces.spares (h : p.Traces input position s inner step t) : s.Spares t := by
  obtain ⟨_, h⟩ := (law_spares input).traces (a := ()) trivial h
  exact h

theorem law_lasting (input : List Char) :
    Law input (fun (_ : Unit) s p => s.Carries p) fun _ s _ _ t _ => s.Lasting t where
  part := .part
  body h hq := h.elim (·.body hq) (·.body hq)
  keeps h hp := hp.lasting h
  nil _ s _ := .refl s
  append := .trans
  stall _ _ _ := .of_eq rfl rfl
  resolve h :=
    have ⟨hl, hp⟩ := Store.lasting_resolve (h.supports _ List.mem_cons_self)
    ⟨(), hl, hl.sturdy h.sturdy, hp⟩
  call _ h _ := h.trans (.of_eq (slots_conclude ..) (cells_conclude ..))

/-- What stands before an invocation stands after it. -/
theorem Traces.lasting (h : p.Traces input position s inner step t) (hp : s.Carries p) :
    s.Lasting t := by
  obtain ⟨_, h⟩ := (law_lasting input).traces (a := ()) hp h
  exact h

end Parser

/-! ## Workshops -/

/-- Parsers, a clone beside the one that it is of, and the store that they share. -/
structure Workshop where
  parsers : List Parser
  store : Store

namespace Workshop

/-- Nothing has been built yet. -/
def empty : Workshop := ⟨[], Store.empty⟩

/-- Releases the rules that the parsers do not own. -/
def settle (w : Workshop) : Workshop := { w with store := w.store.collect w.parsers }

/-- What can be put to use: a parser, or the handle of any rule. -/
def Offers (w : Workshop) (p : Parser) : Prop := p ∈ w.parsers ∨ ∃ j, p = .handle j

/-- What can be done in a workshop. -/
inductive Turn : Workshop → List Trace → Workshop → Prop
  /-- A parser is built, of others if they are in scope. What a build that fails leaves behind is
  released. -/
  | build {w : Workshop} {rules : Rules} {scope : Scope} {grammar : Grammar}
      {answer : Except GrammarError Parser} {store : Store} : (∀ a ∈ scope, w.Offers a.2) →
      grammar.build rules scope w.store = (answer, store) →
      Turn w [] (settle ⟨answer.toOption.toList ++ w.parsers, store⟩)
  | clone {w : Workshop} {p : Parser} : p ∈ w.parsers → Turn w [] ⟨p :: w.parsers, w.store⟩
  | drop {w : Workshop} {front back : List Parser} {p : Parser} :
      w.parsers = front ++ p :: back → Turn w [] (settle ⟨front ++ back, w.store⟩)
  | use {w : Workshop} {ts : List Trace} {store : Store} :
      w.store.Plays w.Offers ts store → Turn w ts (settle ⟨w.parsers, store⟩)
  | aside {w : Workshop} {store : Store} : w.store.Aside store → Turn w [] ⟨w.parsers, store⟩

/-- Any number of turns. -/
inductive History : Workshop → List Trace → Workshop → Prop
  | refl (w : Workshop) : History w [] w
  | turn {u v w : Workshop} {ts us : List Trace} : History u ts v → Turn v us w →
      History u (ts ++ us) w

/-- What every turn keeps is kept in a history. -/
theorem History.keeps {P : Workshop → Prop} (hturn : ∀ v ts w, Turn v ts w → P v → P w)
    {v w : Workshop} {ts : List Trace} (h : History v ts w) (hv : P v) : P w := by
  induction h with
  | refl => exact hv
  | turn _ ht ih => exact hturn _ _ _ ht ih

theorem History.trans {u v w : Workshop} {ts us : List Trace} (h : History u ts v)
    (h' : History v us w) : History u (ts ++ us) w := by
  induction h' with
  | refl => rwa [List.append_nil]
  | turn _ ht ih =>
    rw [← List.append_assoc]
    exact .turn ih ht

end Workshop

/-! ## What a use of parsers does to the store -/

namespace Store

variable {s t : Store} {offered : Parser → Prop} {ts : List Trace}

theorem Plays.spares (h : s.Plays offered ts t) : s.Spares t := by
  induction h with
  | refl => exact .refl _
  | invoke _ _ hp ih => exact ih.trans hp.spares
  | aside _ ha ih => exact ih.trans (.of_eq ha.slots_eq ha.probes_eq)

theorem Plays.lasting (h : s.Plays offered ts t) (hs : ∀ p, offered p → s.Carries p) :
    s.Lasting t := by
  induction h with
  | refl => exact .refl _
  | invoke _ hp ht ih => exact ih.trans (ht.lasting ((hs _ hp).lasting ih))
  | aside _ ha ih => exact ih.trans (.of_eq ha.slots_eq ha.cells_eq)

end Store

namespace Workshop

/-! ## Turns -/

/-- In a turn something is built, or parsers are used; then what has lost its owner may be
released. -/
theorem Turn.exists_store {v w : Workshop} {ts : List Trace} (h : Turn v ts w) :
    ∃ store, (ts = [] ∧ v.store.Extended store ∨ v.store.Plays v.Offers ts store) ∧
      (w.store = store ∨ w = settle ⟨w.parsers, store⟩) := by
  cases h with
  | @build rules scope grammar answer store _ hb =>
    have hx := Grammar.extended_build rules scope grammar v.store
    rw [hb] at hx
    exact ⟨store, .inl ⟨rfl, hx⟩, .inr rfl⟩
  | clone _ => exact ⟨v.store, .inr (.refl _), .inl rfl⟩
  | drop _ => exact ⟨v.store, .inr (.refl _), .inr rfl⟩
  | @use _ store hplays => exact ⟨store, .inr hplays, .inr rfl⟩
  | @aside store ha => exact ⟨store, .inr (.aside (.refl _) ha), .inl rfl⟩

/-- What happens in a turn are invocations. -/
theorem Turn.invoked {v w : Workshop} {ts : List Trace} (h : Turn v ts w) :
    ∀ x ∈ ts, x.Invoked := by
  obtain ⟨store, ⟨rfl, -⟩ | hplays, -⟩ := h.exists_store
  · exact nofun
  · exact hplays.invoked

theorem History.invoked {v w : Workshop} {ts : List Trace} (h : History v ts w) :
    ∀ x ∈ ts, x.Invoked := by
  induction h with
  | refl => exact nofun
  | turn _ ht ih => exact List.forall_mem_append.2 ⟨ih, ht.invoked⟩

/-- A turn makes rules, and changes none but by releasing it. -/
theorem Turn.exists_spares {v w : Workshop} {ts : List Trace} (h : Turn v ts w) :
    ∃ store, v.store.Spares store ∧ (w.store = store ∨ w = settle ⟨w.parsers, store⟩) := by
  obtain ⟨store, hstore, hw⟩ := h.exists_store
  refine ⟨store, ?_, hw⟩
  obtain ⟨-, hx⟩ | hplays := hstore
  · exact hx.spares
  · exact hplays.spares

/-! ## What is kept -/

/-- All that the parsers own stands, and so do all rules that are there. Other rules are
released. -/
structure Kept (w : Workshop) : Prop where
  sturdy : w.store.Sturdy
  parsers : ∀ p ∈ w.parsers, w.store.Supports [] p
  released : ∀ j < w.store.slots.size, ¬ w.store.Owns w.parsers (.slot j) →
    w.store.slots[j]? = some .released

section
variable {v w : Workshop} {ts : List Trace}

theorem kept_empty : empty.Kept :=
  ⟨fun _ ⟨_, h⟩ => by simp [empty, Store.empty] at h, fun _ hp => (nomatch hp),
    fun _ h => (nomatch h)⟩

/-- A handle owns nothing, and can be invoked wherever rules stand. -/
theorem Kept.carries (h : w.Kept) {p : Parser} (hp : w.Offers p) : w.store.Carries p := by
  refine ⟨h.sturdy, ?_⟩
  obtain hp | ⟨j, rfl⟩ := hp
  · exact h.parsers p hp
  · exact fun x hx => nomatch hx

/-- What the parsers own stands. -/
theorem Kept.stands (h : w.Kept) {x : Owned} (hx : w.store.Owns w.parsers x) :
    w.store.Stands [] x := by
  induction hx with
  | root hx =>
    obtain ⟨p, hp, hx⟩ := Parser.mem_ownsAll_iff.1 hx
    exact h.parsers p hp _ hx
  | step _ hy ih => exact ih.owned hy

theorem kept_settle (hs : w.store.Sturdy) (hp : ∀ p ∈ w.parsers, w.store.Supports [] p) :
    w.settle.Kept where
  sturdy := hs.collect w.parsers
  parsers p hm x hx :=
    (hp p hm x hx).collect (.root (Parser.mem_ownsAll_iff.2 ⟨p, hm, hx⟩))
  released j hj ho := by
    have ho' : ¬ w.store.Owns w.parsers (.slot j) := fun h => ho (Store.owns_collect h)
    have hj' : j < w.store.slots.size := by simpa [settle] using hj
    exact ((w.store.slots_collect w.parsers j).2 ho').trans
      (by rw [Array.getElem?_eq_getElem hj', Option.map_some])

/-- A turn keeps what stands. -/
theorem Turn.kept (h : Turn v ts w) (hv : v.Kept) : w.Kept := by
  cases h with
  | @build rules scope grammar answer store hscope hb =>
    have hready : Store.Ready [] scope v.store :=
      ⟨nofun, fun a ha => (hv.carries (hscope a ha)).supports⟩
    obtain ⟨hr, hp⟩ := Grammar.upheld_build rules hready grammar
    rw [hb] at hr hp
    refine kept_settle (hr.lasting.sturdy hv.sturdy) fun p hm => ?_
    rcases List.mem_append.1 hm with hm | hm
    · cases answer with
      | error _ => cases hm
      | ok q =>
        obtain rfl := List.mem_singleton.1 hm
        exact hp p rfl
    · exact (hv.parsers p hm).grown hr.grown
  | @clone p hp =>
    refine ⟨hv.sturdy, List.forall_mem_cons.2 ⟨hv.parsers p hp, hv.parsers⟩, fun j hj ho => ?_⟩
    exact hv.released j hj fun h => ho (h.mono (List.subset_cons_self _ _))
  | @drop front back p heq =>
    refine kept_settle hv.sturdy fun q hq => hv.parsers q ?_
    rw [heq]
    simp only [List.mem_append, List.mem_cons] at hq ⊢
    exact hq.imp_right .inr
  | use hplays =>
    have hl := hplays.lasting fun p hp => hv.carries hp
    exact kept_settle (hl.sturdy hv.sturdy) fun p hp x hx => hl.stands x (hv.parsers p hp x hx)
  | @aside store ha =>
    have hl : v.store.Lasting store := .of_eq ha.slots_eq ha.cells_eq
    refine ⟨hl.sturdy hv.sturdy, fun p hp x hx => hl.stands x (hv.parsers p hp x hx),
      fun j hj ho => ?_⟩
    rw [ha.slots_eq] at hj ⊢
    exact hv.released j hj fun h => ho (h.of_eq ha.slots_eq ha.cells_eq)

theorem History.kept (h : History empty ts w) : w.Kept :=
  h.keeps (P := Kept) (fun _ _ _ => Turn.kept) kept_empty

/-! ## What becomes of rules -/

/-- The rules of `v` are rules of `w`, as they were or released. -/
def Onward (v w : Workshop) : Prop :=
  ∀ j < v.store.slots.size, j < w.store.slots.size ∧
    (w.store.slots[j]? = v.store.slots[j]? ∨ w.store.slots[j]? = some .released)

theorem Onward.refl (w : Workshop) : w.Onward w := fun _ hj => ⟨hj, .inl rfl⟩

theorem Onward.trans {u : Workshop} (h : u.Onward v) (h' : v.Onward w) : u.Onward w := by
  intro j hj
  obtain ⟨hj', hs⟩ := h j hj
  obtain ⟨hj'', hs'⟩ := h' j hj'
  refine ⟨hj'', ?_⟩
  obtain hs' | hs' := hs'
  · rwa [hs']
  · exact .inr hs'

theorem onward_of_spares {store : Store} (h : v.store.Spares store) (hw : w.store = store) :
    v.Onward w := by
  subst hw
  exact fun j hj => ⟨Nat.lt_of_lt_of_le hj h.size, .inl (h.slots j hj)⟩

theorem onward_settle (w : Workshop) : w.Onward w.settle := by
  intro j hj
  refine ⟨by simpa [settle] using hj, ?_⟩
  by_cases ho : w.store.Owns w.parsers (.slot j)
  · exact .inl ((w.store.slots_collect w.parsers j).1 ho)
  · exact .inr (((w.store.slots_collect w.parsers j).2 ho).trans
      (by rw [Array.getElem?_eq_getElem hj, Option.map_some]))

theorem Turn.onward (h : Turn v ts w) : v.Onward w := by
  obtain ⟨store, hspares, hw⟩ := h.exists_spares
  obtain hw | hw := hw
  · exact onward_of_spares hspares hw
  · have hv : v.Onward ⟨w.parsers, store⟩ := onward_of_spares hspares rfl
    exact hv.trans (hw ▸ onward_settle ⟨w.parsers, store⟩)

/-- A rule never changes other than by being released. -/
theorem History.onward (h : History v ts w) : v.Onward w :=
  h.keeps (P := v.Onward) (fun _ _ _ ht hv => hv.trans ht.onward) (.refl v)

end

end Workshop

end Descent
