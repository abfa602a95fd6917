import Descent.Proofs.Meaning.Collect
import Descent.Proofs.Trace.Workshop

/-!
# Parsers that stay

A parser keeps its meaning for as long as there is a clone of it (`Workshop.Stays.exists_sound`),
whatever becomes of the other parsers. These may be built of anything, escaped handles too, so that
only some cells and slots have a meaning: those that have none are not in the legend, and what
happens to them does not matter.
-/

namespace Descent

section
variable {rules : Rules} {O : List Nat} {L : Legend} {s t : Store}

/-- Nothing in the store has to have a meaning. -/
theorem exists_sound (rules : Rules) (s : Store) : ∃ L, Sound rules [] L s := by
  refine ⟨⟨.replicate s.slots.size none, .replicate s.cells.size none⟩, by simp, by simp,
    fun j e hj _ => ?_, fun i e hi => ?_⟩
  · simp [List.getElem?_replicate] at hj
  · simp [List.getElem?_replicate] at hi

/-- Slots without a meaning do not matter. -/
theorem Sound.congr_slots (h : Sound rules O L s) (hsize : t.slots.size = s.slots.size)
    (hs : ∀ (j : Nat) e, L.slots[j]? = some (some e) → t.slots[j]? = s.slots[j]?)
    (hc : t.cells = s.cells) : Sound rules O L t := by
  refine ⟨by rw [h.slots_length, hsize], by rw [h.cells_length, hc], fun j e hj hO => ?_,
    by rw [hc]; exact h.cell⟩
  rw [hs j e hj]
  exact h.slot j e hj hO

/-- A cell without a meaning may be filled with anything. -/
theorem Sound.fillCell_of_none (h : Sound rules O L s) {i : Nat}
    (hi : ∀ e, L.cells[i]? ≠ some (some e)) (factory : Factory) (p : Parser) :
    Sound rules O L (s.fillCell i factory p) := by
  refine ⟨h.slots_length, by simp [Store.fillCell, h.cells_length], h.slot, fun k e hk => ?_⟩
  have hne : i ≠ k := by
    rintro rfl
    exact hi e hk
  simp only [Store.fillCell, Array.getElem?_setIfInBounds, if_neg hne]
  exact h.cell k e hk

/-- Whether or not a cell has a meaning, resolving it keeps that of all that has one. -/
theorem Sound.exists_resolve (h : Sound rules [] L s) (cell : Nat) :
    ∃ L', L.Le L' ∧ Sound rules [] L' (s.resolve cell).2 := by
  by_cases hcell : ∃ e, L.cells[cell]? = some (some e)
  · obtain ⟨e, he⟩ := hcell
    obtain ⟨L', hL, hs, -⟩ := h.resolve he
    exact ⟨L', hL, hs⟩
  · obtain ⟨hs, -⟩ | ⟨factory, hf⟩ := s.idle_or_empty cell
    · rw [hs]
      exact ⟨L, .refl L, h⟩
    · rw [Store.resolve_of_empty hf]
      have hbefore : Sound rules [] L s.beforeFactory := h.congr rfl rfl
      refine ⟨_, L.le_pad _, (hbefore.pad (factory.extended_run _).grown).fillCell_of_none ?_ _ _⟩
      exact fun e he => hcell ⟨e, Legend.getElem?_of_append_none he⟩

/-- What a parser that stays does not own may be released. -/
theorem Sound.collect_of_mem {p : Parser} {c : Closure} {roots : List Parser}
    (h : Sound rules [] L s) (hb : Built rules L [] p c) (hp : p ∈ roots) :
    ∃ L', Sound rules [] L' (s.collect roots) ∧ Built rules L' [] p c := by
  have hbuilt : ∀ q ∈ [p], ∃ c, Built rules L [] q c :=
    List.forall_mem_singleton.2 ⟨c, hb⟩
  refine ⟨_, (h.collect hbuilt).congr_slots (by simp) (fun j e hj => ?_) rfl,
    hb.collect (List.mem_singleton_self p)⟩
  have ho : s.Owns [p] (.slot j) :=
    Store.mem_reachable_iff.1 (Legend.slots_restrict_iff.1 hj).2
  have hsub : [p] ⊆ roots := List.cons_subset.2 ⟨hp, List.nil_subset _⟩
  rw [(s.slots_collect roots j).1 (ho.mono hsub), (s.slots_collect [p] j).1 ho]

end

/-! ## Uses of other parsers -/

/-- All that has a meaning keeps it, whatever is invoked. -/
theorem law_sound (rules : Rules) (input : List Char) :
    Law input (fun (_ : Legend) _ _ => True) fun L s _ L' t _ =>
      Sound rules [] L s → L.Le L' ∧ Sound rules [] L' t where
  part _ _ := trivial
  body _ _ := trivial
  keeps _ _ := trivial
  nil L _ _ h := ⟨.refl L, h⟩
  append h h' hs :=
    have ⟨hL, hs⟩ := h hs
    have ⟨hL', hs⟩ := h' hs
    ⟨hL.trans hL', hs⟩
  stall L _ _ hs := ⟨.refl L, hs.congr rfl rfl⟩
  resolve {L s cell} _ := by
    by_cases hs : Sound rules [] L s
    · obtain ⟨L', h⟩ := hs.exists_resolve cell
      exact ⟨L', fun _ => h, trivial⟩
    · exact ⟨L, fun h => absurd h hs, trivial⟩
  call _ h _ hs :=
    have ⟨hL, hs⟩ := h hs
    ⟨hL, hs.congr (Parser.slots_conclude ..) (Parser.cells_conclude ..)⟩

theorem Store.Plays.exists_sound {rules : Rules} {offered : Parser → Prop} {s t : Store}
    {ts : List Trace} {L : Legend} (h : s.Plays offered ts t) (hs : Sound rules [] L s) :
    ∃ L', L.Le L' ∧ Sound rules [] L' t := by
  induction h with
  | refl => exact ⟨L, .refl L, hs⟩
  | @invoke _ _ _ _ input _ _ _ _ _ ht ih =>
    obtain ⟨L₁, hL₁, hs₁⟩ := ih
    obtain ⟨L₂, hlaw⟩ := (law_sound rules input).traces (a := L₁) trivial ht
    obtain ⟨hL₂, hs₂⟩ := hlaw hs₁
    exact ⟨L₂, hL₁.trans hL₂, hs₂⟩
  | aside _ ha ih =>
    obtain ⟨L', hL, hs'⟩ := ih
    exact ⟨L', hL, hs'.congr ha.slots_eq ha.cells_eq⟩

namespace Workshop

/-! ## Histories of a parser -/

/-- A history in which there always is a clone of the parser. -/
inductive Stays (p : Parser) : Workshop → Workshop → Prop
  | refl {w : Workshop} : p ∈ w.parsers → Stays p w w
  | turn {u v w : Workshop} {ts : List Trace} : Stays p u v → Turn v ts w → p ∈ w.parsers →
      Stays p u w

/-- The store at some time while the parsers are used. -/
def Amid (w : Workshop) (s : Store) : Prop := ∃ ts, w.store.Plays w.Offers ts s

theorem Amid.refl (w : Workshop) : w.Amid w.store := ⟨[], .refl _⟩

section
variable {rules : Rules} {p : Parser} {c : Closure} {u v w : Workshop} {ts : List Trace}

/-- The parser has the meaning of `c`. -/
def Intends (rules : Rules) (p : Parser) (c : Closure) (s : Store) : Prop :=
  ∃ L, Sound rules [] L s ∧ Built rules L [] p c

theorem Intends.plays {s t : Store} {offered : Parser → Prop} (h : Intends rules p c s)
    (hplays : s.Plays offered ts t) : Intends rules p c t := by
  obtain ⟨L, hs, hb⟩ := h
  obtain ⟨L', hL, hs'⟩ := hplays.exists_sound hs
  exact ⟨L', hs', hb.mono hL (List.Subset.refl _)⟩

theorem Intends.settle (h : Intends rules p c w.store) (hp : p ∈ w.parsers) :
    Intends rules p c w.settle.store := by
  obtain ⟨L, hs, hb⟩ := h
  exact hs.collect_of_mem hb hp

theorem Turn.intends (h : Turn v ts w) (hv : Intends rules p c v.store) (hp : p ∈ w.parsers) :
    Intends rules p c w.store := by
  obtain ⟨store, hstore, hw⟩ := h.exists_store
  have hstore : Intends rules p c store := by
    obtain ⟨-, hx⟩ | hplays := hstore
    · obtain ⟨L, hs, hb⟩ := hv
      exact ⟨L.pad store, hs.pad hx.grown, hb.mono (L.le_pad store) (List.Subset.refl _)⟩
    · exact hv.plays hplays
  obtain hw | hw := hw
  · rwa [hw]
  · rw [hw]
    exact .settle (w := ⟨w.parsers, store⟩) hstore hp

/-- What a parser means it means for as long as there is a clone of it. -/
theorem Stays.intends (h : Stays p v w) (hv : Intends rules p c v.store) :
    Intends rules p c w.store := by
  induction h with
  | refl _ => exact hv
  | turn _ ht hp ih => exact ht.intends ih hp

/-- The parser of a grammar means the grammar, wherever it is built. -/
theorem intends_build {grammar : Grammar} {s t : Store}
    (h : grammar.build rules [] s = (.ok p, t)) : Intends rules p (grammar.closed rules) t := by
  obtain ⟨L₀, hs₀⟩ := Descent.exists_sound rules s
  obtain ⟨L, -, hs, hb⟩ := Grammar.builds rules [] grammar [] [] L₀ [] s p t h hs₀ .nil
  exact ⟨L, hs, hb⟩

/-- While a parser that was built of a grammar stays, it answers what the grammar derives. -/
theorem Stays.exists_derives {grammar : Grammar} {store s t : Store} {input : List Char}
    {position : Nat} {step : Step} (hb : grammar.build rules [] u.store = (.ok p, store))
    (h : Stays p (settle ⟨p :: u.parsers, store⟩) w) (hs : w.Amid s)
    (hi : p.invoke input position s = some (step, t)) :
    ∃ failures, Derives rules input (.whole (grammar.closed rules)) position step failures := by
  have hbuilt : Intends rules p (grammar.closed rules) (settle ⟨p :: u.parsers, store⟩).store :=
    .settle (w := ⟨_, store⟩) (intends_build hb) List.mem_cons_self
  obtain ⟨ts, hplays⟩ := hs
  obtain ⟨L, hsound, hbuilt⟩ := (h.intends hbuilt).plays hplays
  obtain ⟨_, failures, -, hd⟩ := derives_of_invoke hbuilt hsound hi
  exact ⟨failures, hd⟩

end

end Workshop

end Descent
