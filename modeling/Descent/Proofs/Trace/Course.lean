import Descent.Proofs.Meaning.Session
import Descent.Proofs.Trace.Workshop

/-!
# Sessions are workshops

A session is a workshop with one parser. All that can be done in it, dropping the reader included, is
done in turns (`Session.Passes.exists_history`), so that what holds of all histories of workshops
holds of all sessions.
-/

namespace Descent

namespace Session

/-- The session after any number of uses, in the course of which the reader may be dropped. -/
inductive Passes (s : Session) : Session → Prop
  | refl : Passes s s
  | use {t u : Session} : Passes s t → Uses t u → Passes s u
  | drop {t : Session} : Passes s t → Passes s t.drop

/-- The workshop of a session. -/
def workshop (s : Session) : Workshop := ⟨s.roots, s.store⟩

/-- One invocation of `p`, with `inner` as what happens in it, leads from `s` to `t`. -/
structure Calls (s : Session) (p : Parser) (input : List Char) (position : Nat)
    (inner : List Trace) (step : Step) (store : Store) (t : Session) : Prop where
  invoke : p.invoke input position s.store = some (step, store)
  traces : p.Traces input position s.store inner step store
  settle : t = s.settle store

section
variable {s t : Session} {input : List Char} {position : Nat} {step : Step}

theorem offers_reader {reader : Reader} (h : s.reader? = some reader) :
    s.workshop.Offers reader.parser :=
  .inl (by simp [workshop, roots, h])

/-- A use of the reader is a turn. -/
theorem exists_turn_of_use {α : Type} {act : Reader → Store → Option (α × Store)} {a : α}
    (hact : ∀ reader, Enacts (Eq reader.parser) (act reader)) (h : s.use act = some (a, t)) :
    ∃ ts, Workshop.Turn s.workshop ts t.workshop := by
  cases hr : s.reader? with
  | none =>
    rw [use, hr] at h
    cases h
  | some reader =>
    simp only [use, hr, Option.map_eq_some_iff, Prod.exists, Prod.mk.injEq] at h
    obtain ⟨_, store, h, -, rfl⟩ := h
    obtain ⟨ts, hplays⟩ := hact reader s.store _ store h
    exact ⟨ts, .use (hplays.mono fun p hp => hp ▸ offers_reader hr)⟩

/-- The session invokes its parser. -/
theorem exists_call_of_invoke (h : s.invoke input position = some (step, t)) :
    ∃ reader inner store, s.reader? = some reader ∧
      s.Calls reader.parser input position inner step store t := by
  cases hr : s.reader? with
  | none =>
    rw [invoke, use, hr] at h
    cases h
  | some reader =>
    simp only [invoke, use, hr, Option.map_eq_some_iff, Prod.exists, Prod.mk.injEq] at h
    obtain ⟨_, store, h, rfl, rfl⟩ := h
    obtain ⟨inner, ht⟩ := Parser.invoke_iff_traces.1 h
    exact ⟨reader, inner, store, rfl, h, ht, rfl⟩

/-- The session invokes the handle of a rule. -/
theorem exists_call_of_invokeHandle {name : String}
    (h : s.invokeHandle name input position = some (step, t)) :
    ∃ slot inner store, s.store.handles.lookup name = some slot ∧
      s.Calls (.handle slot) input position inner step store t := by
  unfold invokeHandle at h
  split at h
  · cases h
  · rename_i slot hslot
    simp only [Option.map_eq_some_iff, Prod.exists, Prod.mk.injEq] at h
    obtain ⟨_, store, h, rfl, rfl⟩ := h
    obtain ⟨inner, ht⟩ := Parser.invoke_iff_traces.1 h
    exact ⟨slot, inner, store, hslot, h, ht, rfl⟩

/-- An invocation of what the session offers is a turn. -/
theorem Calls.turn {p : Parser} {inner : List Trace} {store : Store}
    (h : s.Calls p input position inner step store t) (hp : s.workshop.Offers p) :
    Workshop.Turn s.workshop [.call p position inner step store] t.workshop := by
  obtain ⟨-, ht, rfl⟩ := h
  exact .use (.invoke (.refl _) hp ht)

theorem Uses.exists_turn (h : Uses s t) : ∃ ts, Workshop.Turn s.workshop ts t.workshop := by
  cases h with
  | invoke hu =>
    obtain ⟨reader, inner, store, hr, hcalls⟩ := exists_call_of_invoke hu
    exact ⟨_, hcalls.turn (offers_reader hr)⟩
  | invokeHandle hu =>
    obtain ⟨slot, inner, store, -, hcalls⟩ := exists_call_of_invokeHandle hu
    exact ⟨_, hcalls.turn (.inr ⟨slot, rfl⟩)⟩
  | parseAt hu => exact exists_turn_of_use (fun _ => enacts_parseAt rfl _ _) hu
  | parsePrefix hu => exact exists_turn_of_use (fun _ => enacts_parsePrefix rfl _) hu
  | parse hu => exact exists_turn_of_use (fun _ => enacts_parse rfl _) hu
  | parseComplete hu =>
    exact exists_turn_of_use (fun reader => @enacts_parse _ { parser := reader.parser } rfl _) hu
  | check hu => exact exists_turn_of_use (fun _ => enacts_assertion rfl _ _) hu
  | record position label => exact ⟨[], .aside (.expect s.store position label)⟩
  | reset => exact ⟨[], .aside (.resetTracker s.store)⟩

/-- To drop the reader is to drop the one parser, or nothing if it has been dropped before. -/
theorem turn_drop (s : Session) : Workshop.Turn s.workshop [] s.drop.workshop := by
  have hdrop : s.drop.workshop = Workshop.settle ⟨[], s.store⟩ := rfl
  rw [hdrop]
  cases hr : s.reader? with
  | none =>
    have hs : s.workshop = ⟨[], s.store⟩ := by rw [workshop, roots, hr]; rfl
    rw [hs]
    exact .use (.refl _)
  | some reader =>
    have hs : s.workshop = ⟨[reader.parser], s.store⟩ := by rw [workshop, roots, hr]; rfl
    rw [hs]
    exact @Workshop.Turn.drop ⟨[reader.parser], s.store⟩ [] [] reader.parser rfl

theorem Passes.exists_history (h : Passes s t) : ∃ ts, Workshop.History s.workshop ts t.workshop := by
  induction h with
  | refl => exact ⟨[], .refl _⟩
  | use _ hu ih =>
    obtain ⟨ts, hts⟩ := ih
    obtain ⟨us, hus⟩ := hu.exists_turn
    exact ⟨_, .turn hts hus⟩
  | drop _ ih =>
    obtain ⟨ts, hts⟩ := ih
    exact ⟨_, .turn hts (turn_drop _)⟩

/-- What the session does next comes behind the history `ts`. An invocation of its parser or of a
handle is the one that is added; a drop adds nothing. -/
structure Continues (s : Session) (ts : List Trace) : Prop where
  invoke : ∀ input position step t, s.invoke input position = some (step, t) →
    ∃ reader inner store, s.reader? = some reader ∧
      s.Calls reader.parser input position inner step store t ∧
      Workshop.History Workshop.empty (ts ++ [.call reader.parser position inner step store])
        t.workshop
  invokeHandle : ∀ name input position step t, s.invokeHandle name input position = some (step, t) →
    ∃ slot inner store, s.store.handles.lookup name = some slot ∧
      s.Calls (.handle slot) input position inner step store t ∧
      Workshop.History Workshop.empty (ts ++ [.call (.handle slot) position inner step store])
        t.workshop
  uses : ∀ t, Uses s t → ∃ us, (∀ x ∈ us, x.Invoked) ∧
    Workshop.History Workshop.empty (ts ++ us) t.workshop
  drop : Workshop.History Workshop.empty ts s.drop.workshop

theorem continues {ts : List Trace} (h : Workshop.History Workshop.empty ts s.workshop) :
    s.Continues ts where
  invoke input position step t ht := by
    obtain ⟨reader, inner, store, hr, hcalls⟩ := exists_call_of_invoke ht
    exact ⟨reader, inner, store, hr, hcalls, h.turn (hcalls.turn (offers_reader hr))⟩
  invokeHandle name input position step t ht := by
    obtain ⟨slot, inner, store, hslot, hcalls⟩ := exists_call_of_invokeHandle ht
    exact ⟨slot, inner, store, hslot, hcalls, h.turn (hcalls.turn (.inr ⟨slot, rfl⟩))⟩
  uses t ht := by
    obtain ⟨us, hus⟩ := ht.exists_turn
    exact ⟨us, hus.invoked, h.turn hus⟩
  drop := by simpa only [List.append_nil] using h.turn (turn_drop s)

end

/-- A session starts with one turn. -/
theorem turn_start {rules : Rules} {grammar : Grammar} {options : ReaderOptions} {tracked : Bool}
    {s : Session} {store : Store} (h : start rules grammar options tracked = (.ok s, store)) :
    Workshop.Turn Workshop.empty [] s.workshop := by
  unfold start at h
  split at h
  · cases h
  · rename_i parser store hb
    cases h
    exact @Workshop.Turn.build Workshop.empty rules [] grammar (.ok parser) store nofun hb

/-- Each session comes of an empty workshop. -/
theorem exists_history {rules : Rules} {grammar : Grammar} {options : ReaderOptions}
    {tracked : Bool} {s t : Session} {store : Store}
    (h : start rules grammar options tracked = (.ok s, store)) (ht : Passes s t) :
    ∃ ts, Workshop.History Workshop.empty ts t.workshop := by
  obtain ⟨ts, hts⟩ := ht.exists_history
  exact ⟨_, (Workshop.History.turn (.refl _) (turn_start h)).trans hts⟩

end Session

end Descent
