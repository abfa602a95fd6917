import Descent.Proofs.Meaning.Collect
import Descent.Proofs.Trace.Uses

/-!
# The meaning of a session

Whatever has been done in a session before, invoking its parser at a position answers what the
grammar derives there (`Session.invoke_iff_derives`), no more and no less: it comes to no end just
where nothing is derived. What earlier uses have left behind in cells, slots and the tracker, and
what has been released since, does not show in an answer.
-/

namespace Descent

/-! ## Uses that keep the meaning -/

/-- The act leaves a sound store behind, in which the parser keeps its meaning. -/
def Keeps {α : Type} (rules : Rules) (p : Parser) (c : Closure)
    (act : Store → Option (α × Store)) : Prop :=
  ∀ (L : Legend) (store : Store) (a : α) (store' : Store), Built rules L [] p c →
    Sound rules [] L store → act store = some (a, store') → ∃ L', L.Le L' ∧ Sound rules [] L' store'

section
variable {rules : Rules} {p : Parser} {c : Closure}

/-- To invoke the parser keeps the meaning, and what else a use does is not about cells and slots. -/
theorem Enacts.keeps {α : Type} {act : Store → Option (α × Store)} (h : Enacts (Eq p) act) :
    Keeps rules p c act := by
  intro L store a store' hb hs hact
  obtain ⟨ts, hplays⟩ := h store a store' hact
  clear hact
  induction hplays with
  | refl => exact ⟨L, .refl L, hs⟩
  | invoke _ hp ht ih =>
    subst hp
    obtain ⟨L₁, hL₁, hs₁⟩ := ih
    obtain ⟨L', failures, ha, -⟩ := derives_of_invoke (hb.mono hL₁ (List.Subset.refl _)) hs₁
      (Parser.invoke_iff_traces.2 ⟨_, ht⟩)
    exact ⟨L', hL₁.trans ha.le, ha.sound⟩
  | aside _ ha ih =>
    obtain ⟨L', hL, hs'⟩ := ih
    exact ⟨L', hL, hs'.congr ha.slots_eq ha.cells_eq⟩

end

namespace Session

/-! ## Sessions in use -/

/-- The session after one more use. -/
inductive Uses : Session → Session → Prop
  | invoke {s s' : Session} {input : List Char} {position : Nat} {step : Step} :
      s.invoke input position = some (step, s') → Uses s s'
  | invokeHandle {s s' : Session} {name : String} {input : List Char} {position : Nat}
      {step : Step} : s.invokeHandle name input position = some (step, s') → Uses s s'
  | parseAt {s s' : Session} {input : List Char} {position : Nat}
      {answer : Except ParseError (Outcome Value)} :
      s.use (fun reader => Reader.parseAt reader.parser input position) = some (answer, s') →
      Uses s s'
  | parsePrefix {s s' : Session} {input : List Char} {answer : Except ParseError (Value × Nat)} :
      s.use (fun reader => reader.parsePrefix input) = some (answer, s') → Uses s s'
  | parse {s s' : Session} {input : List Char} {answer : Except ParseError Value} :
      s.use (fun reader => reader.parse input) = some (answer, s') → Uses s s'
  | parseComplete {s s' : Session} {input : List Char} {answer : Except ParseError Value} :
      s.use (fun reader => reader.parser.parseComplete input) = some (answer, s') → Uses s s'
  | check {s s' : Session} {input : List Char} {checks : List Check}
      {answer : Except (List Char) (Outcome Value)} :
      s.use (fun reader => Assertion.run reader.parser input checks) = some (answer, s') →
      Uses s s'
  | record {s : Session} (position : Nat) (label : String) : Uses s (s.record position label)
  | reset {s : Session} : Uses s s.reset

/-- The session after any number of uses. -/
inductive Reaches (s : Session) : Session → Prop
  | refl : Reaches s s
  | step {s' s'' : Session} : Reaches s s' → Uses s' s'' → Reaches s s''

/-- The store of the session is sound, and its reader has the parser of `c`. -/
def Sound (rules : Rules) (c : Closure) (s : Session) : Prop :=
  ∃ reader L, s.reader? = some reader ∧ Built rules L [] reader.parser c ∧
    Descent.Sound rules [] L s.store ∧
    ∀ (j : Nat) p, s.store.slots[j]? = some (.installed p) → ∃ e, L.slots[j]? = some (some e)

section
variable {rules : Rules} {c : Closure} {s s' : Session}

/-- What is released is not needed. -/
theorem sound_settle {reader : Reader} {L : Legend} {store : Store}
    (hr : s.reader? = some reader) (hb : Built rules L [] reader.parser c)
    (hs : Descent.Sound rules [] L store) : (s.settle store).Sound rules c := by
  have hroots : s.roots = [reader.parser] := by simp [roots, hr]
  have hbuilt : ∀ p ∈ s.roots, ∃ c, Built rules L [] p c := by
    rw [hroots]
    exact fun p hp => ⟨c, by rwa [List.mem_singleton.1 hp]⟩
  refine ⟨reader, _, hr, hb.collect (by simp [hroots]), hs.collect hbuilt, fun j p hj => ?_⟩
  by_cases ho : store.Owns s.roots (.slot j)
  · obtain ⟨e, he, -⟩ := hs.exists_entry_of_owns hbuilt ho
    exact ⟨e, Legend.slots_restrict_iff.2 ⟨he, Store.mem_reachable_iff.2 ho⟩⟩
  · have hj' := (store.slots_collect s.roots j).2 ho
    rw [show (s.settle store).store.slots[j]? = _ from hj', Option.map_eq_some_iff] at hj
    obtain ⟨_, -, hj⟩ := hj
    cases hj

/-- An act that keeps the meaning is a use that does. -/
theorem Sound.use {α : Type} {act : Reader → Store → Option (α × Store)} {a : α}
    (h : s.Sound rules c) (hact : ∀ reader, Keeps rules reader.parser c (act reader))
    (hu : s.use act = some (a, s')) : s'.Sound rules c := by
  obtain ⟨reader, L, hr, hb, hs, -⟩ := h
  simp only [Session.use, hr, Option.map_eq_some_iff, Prod.exists, Prod.mk.injEq] at hu
  obtain ⟨a, store, h, -, rfl⟩ := hu
  obtain ⟨L', hL, hs'⟩ := hact reader L s.store a store hb hs h
  exact sound_settle hr (hb.mono hL (List.Subset.refl _)) hs'

theorem Sound.invokeHandle {name : String} {input : List Char} {position : Nat} {step : Step}
    (h : s.Sound rules c) (hu : s.invokeHandle name input position = some (step, s')) :
    s'.Sound rules c := by
  obtain ⟨reader, L, hr, hb, hs, hslot⟩ := h
  unfold Session.invokeHandle at hu
  split at hu
  · cases hu
  · rename_i slot _
    simp only [Option.map_eq_some_iff, Prod.exists, Prod.mk.injEq] at hu
    obtain ⟨step, store, h, -, rfl⟩ := hu
    cases hbody : s.store.body slot with
    | error error =>
      obtain ⟨fuel, h⟩ := Parser.invoke_eq_some_iff.1 h
      cases fuel with
      | zero => cases h
      | succ fuel =>
        simp only [Parser.run, Parser.runBody, hbody, Option.some.injEq, Prod.mk.injEq] at h
        rw [← h.2]
        exact sound_settle hr hb hs
    | ok body =>
      have hj : s.store.slots[slot]? = some (.installed body) := by
        unfold Store.body at hbody
        split at hbody <;> cases hbody
        assumption
      obtain ⟨e, he⟩ := hslot slot body hj
      have hh : Built rules L [slot] (.handle slot) e.closure := .handle he List.mem_cons_self
      obtain ⟨L', failures, ha, -⟩ := derives_of_invoke hh hs h
      exact sound_settle hr (hb.mono ha.le (List.Subset.refl _)) ha.sound

theorem Sound.uses (h : s.Sound rules c) (hu : Uses s s') : s'.Sound rules c := by
  cases hu with
  | invoke hu => exact h.use (fun _ => (enacts_invoke rfl _ _).keeps) hu
  | invokeHandle hu => exact h.invokeHandle hu
  | parseAt hu => exact h.use (fun _ => (enacts_parseAt rfl _ _).keeps) hu
  | parsePrefix hu => exact h.use (fun _ => (enacts_parsePrefix rfl _).keeps) hu
  | parse hu => exact h.use (fun _ => (enacts_parse rfl _).keeps) hu
  | parseComplete hu =>
    exact h.use (fun reader => (@enacts_parse _ { parser := reader.parser } rfl _).keeps) hu
  | check hu => exact h.use (fun _ => (enacts_assertion rfl _ _).keeps) hu
  | record position label | reset =>
    obtain ⟨reader, L, hr, hb, hs, hslot⟩ := h
    exact ⟨reader, L, hr, hb, hs.congr rfl rfl, hslot⟩

theorem Sound.reaches (h : s.Sound rules c) (hr : Reaches s s') : s'.Sound rules c := by
  induction hr with
  | refl => exact h
  | step _ hu ih => exact ih.uses hu

end

/-- A session starts with the parser of its grammar. -/
theorem sound_start {rules : Rules} {grammar : Grammar} {options : ReaderOptions}
    {tracked : Bool} {s : Session} {store : Store}
    (h : start rules grammar options tracked = (.ok s, store)) :
    s.Sound rules (grammar.closed rules) := by
  unfold start at h
  split at h
  · cases h
  · rename_i parser store₁ hb
    cases h
    obtain ⟨L, -, hs, hp⟩ :=
      Grammar.builds rules [] grammar [] [] _ [] _ _ _ hb (sound_empty rules) .nil
    exact sound_settle rfl hp hs

/-- A session starts if the grammar can be built. -/
theorem exists_start_iff {rules : Rules} {grammar : Grammar} {options : ReaderOptions}
    {tracked : Bool} :
    (∃ s store, start rules grammar options tracked = (.ok s, store)) ↔
      grammar.fault rules = none := by
  have hfault := Grammar.error?_build rules [] grammar Store.empty
  rw [← hfault]
  unfold start
  split
  · rename_i error store hb
    rw [hb]
    exact iff_of_false (fun ⟨_, _, h⟩ => nomatch h) nofun
  · rename_i parser store hb
    rw [hb]
    exact iff_of_true ⟨_, _, rfl⟩ rfl

/-! ## The main theorem -/

section
variable {rules : Rules} {c : Closure} {s : Session} {input : List Char} {position : Nat}
  {step : Step}

/-- What an invocation answers is derived, and so is what it records. -/
theorem Sound.exists_derives {s' : Session} (h : s.Sound rules c)
    (hs : s.invoke input position = some (step, s')) :
    ∃ failures, Derives rules input (.whole c) position step failures ∧
      s'.store.tracker = s.store.tracker.recordAll failures := by
  obtain ⟨reader, L, hr, hb, hsound, -⟩ := h
  simp only [Session.invoke, Session.use, hr, Option.map_eq_some_iff, Prod.exists,
    Prod.mk.injEq] at hs
  obtain ⟨step, store, h, rfl, rfl⟩ := hs
  obtain ⟨L', failures, ha, hd⟩ := derives_of_invoke hb hsound h
  exact ⟨failures, hd, ha.tracker⟩

/-- What is derived is answered, and recorded. -/
theorem Sound.exists_invoke {failures : List Failure} (h : s.Sound rules c)
    (hd : Derives rules input (.whole c) position step failures) :
    ∃ s', s.invoke input position = some (step, s') ∧
      s'.store.tracker = s.store.tracker.recordAll failures := by
  obtain ⟨reader, L, hr, hb, hsound, -⟩ := h
  obtain ⟨L', store', h, ha⟩ := invoke_of_derives hb hsound hd
  refine ⟨s.settle store', ?_, ha.tracker⟩
  simp only [Session.invoke, Session.use, hr, h, Option.map_some]

end

/-- However a session has been used, an invocation answers what the grammar derives, and records
what is recorded on the way. -/
theorem invoke_iff_derives {rules : Rules} {grammar : Grammar} {options : ReaderOptions}
    {tracked : Bool} {s₀ s : Session} {store : Store}
    (hstart : start rules grammar options tracked = (.ok s₀, store)) (hreach : Reaches s₀ s)
    (input : List Char) (position : Nat) (step : Step) (tracker : Tracker) :
    (∃ s', s.invoke input position = some (step, s') ∧ s'.store.tracker = tracker) ↔
      ∃ failures, Derives rules input (.whole (grammar.closed rules)) position step failures ∧
        tracker = s.store.tracker.recordAll failures := by
  have hs := (sound_start hstart).reaches hreach
  constructor
  · rintro ⟨s', h, rfl⟩
    obtain ⟨failures, hd, ht⟩ := hs.exists_derives h
    exact ⟨failures, hd, ht⟩
  · rintro ⟨failures, hd, rfl⟩
    exact hs.exists_invoke hd

theorem invoke_of_run {s : Session} {reader : Reader} {input : List Char} {position fuel : Nat}
    {step : Step} {store : Store} (hr : s.reader? = some reader)
    (h : reader.parser.run input fuel position s.store = some (step, store)) :
    s.invoke input position = some (step, s.settle store) := by
  simp only [Session.invoke, Session.use, hr, Parser.invoke_eq_some_iff.2 ⟨fuel, h⟩,
    Option.map_some]

/-- A letter in parentheses. -/
def nested : Grammar :=
  .recursive "nested" false false
    (.choice [.sequence [.literal "(", .var "nested", .literal ")"],
      .deferred (.labelled "letter" (.literal "x"))])

/-- The session of `nested` after an invocation that has filled its cell. -/
theorem invoke_iff_derives_nested :
    ∃ s₀ s store, start [] nested {} true = (.ok s₀, store) ∧ Reaches s₀ s ∧
      ∀ (input : List Char) (position : Nat) (step : Step) (tracker : Tracker),
        (∃ s', s.invoke input position = some (step, s') ∧ s'.store.tracker = tracker) ↔
          ∃ failures, Derives [] input (.whole (nested.closed [])) position step failures ∧
            tracker = s.store.tracker.recordAll failures := by
  let built := nested.build [] [] Store.empty
  let s₀ := settle ⟨some { parser := .rule 0, tracked := true }, built.2⟩ built.2
  have hreach : Reaches s₀ _ :=
    .step .refl (.invoke (@invoke_of_run s₀ _ "(x)".toList 0 10 _ _ rfl rfl))
  exact ⟨s₀, _, _, rfl, hreach, invoke_iff_derives rfl hreach⟩

end Session

end Descent
