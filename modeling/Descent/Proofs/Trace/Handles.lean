import Descent.Proofs.Meaning.Names
import Descent.Proofs.Trace.Course
import Descent.Proofs.Trace.Staying

/-!
# The life of a handle

A handle works for as long as some parser owns its rule, and not before the rule has a body
(`Workshop.handles_follow_owners`). Within the body of its rule a handle is only invoked while the rule
has an owner, so that a grammar in which all names are bound never comes to a handle without a rule.
-/

namespace Descent

namespace Parser

section
variable {input : List Char} {position slot : Nat} {s : Store}

/-- A rule and its handle answer what the body of the rule does. -/
theorem invoke_of_body {p body : Parser} (hp : p = .rule slot ∨ p = .handle slot)
    (h : s.body slot = .ok body) : p.invoke input position s = body.invoke input position s := by
  have hrun : ∀ fuel, p.run input (fuel + 1) position s = body.run input fuel position s := by
    intro fuel
    obtain rfl | rfl := hp <;> simp only [run, runBody, h]
  refine Option.ext fun result => ?_
  rw [invoke_eq_some_iff, invoke_eq_some_iff]
  constructor
  · rintro ⟨fuel, hfuel⟩
    cases fuel with
    | zero => cases hfuel
    | succ fuel => exact ⟨fuel, hrun fuel ▸ hfuel⟩
  · rintro ⟨fuel, hfuel⟩
    exact ⟨fuel + 1, (hrun fuel).trans hfuel⟩

/-- A handle without a rule answers an error, wherever it is invoked. -/
theorem invoke_of_body_error {error : GrammarError} (h : s.body slot = .error error) :
    (handle slot).invoke input position s = some (.error error, s) :=
  invoke_eq_some_iff.2 ⟨1, by simp only [run, runBody, h]⟩

end

end Parser

namespace Store

/-- All that may go on while a rule is being defined: anything is built, and parsers are invoked. -/
inductive Proceeds : Store → Store → Prop
  | refl (s : Store) : Proceeds s s
  | build {s t u : Store} : Proceeds s t → t.Extended u → Proceeds s u
  | use {s t u : Store} {offered : Parser → Prop} {ts : List Trace} : Proceeds s t →
      t.Plays offered ts u → Proceeds s u

variable {s t : Store}

theorem Proceeds.spares (h : s.Proceeds t) : s.Spares t := by
  induction h with
  | refl => exact .refl _
  | build _ hx ih => exact ih.trans hx.spares
  | use _ hplays ih => exact ih.trans hplays.spares

/-- Until the body of a rule is put in place, the rule has none. -/
theorem Proceeds.body_openRule {name : String} {exposed probed : Bool}
    (h : (Grammar.openRule name exposed probed s).Proceeds t) :
    t.body s.slots.size = .error .undefinedRule := by
  have hslots : t.slots[s.slots.size]? = s.addSlot.slots[s.slots.size]? := by
    rw [h.spares.slots _ (by simp [addSlot]), Grammar.slots_openRule]
  rw [body, hslots]
  exact Grammar.body_addSlot s

/-- What a parser owns is behind every place that mentions what the parser mentions. -/
theorem Owns.transGen {p : Parser} {x y : Owned} (h : s.Owns [p] y) (hx : p.owns ⊆ s.ownedBy x) :
    Relation.TransGen s.Holds x y := by
  induction h with
  | root hy => exact .single (hx (by simpa [Parser.ownsAll] using hy))
  | step _ hy ih => exact .tail ih hy

end Store

namespace Workshop

section
variable {v w : Workshop} {ts us : List Trace} {j : Nat} {body : Parser} {s : Store}

/-- A handle that is invoked too early always comes to an undefined rule. -/
theorem Turn.forall_probes (h : Turn v ts w) (hv : ∀ e ∈ v.store.probes, e = .undefinedRule) :
    ∀ e ∈ w.store.probes, e = .undefinedRule := by
  obtain ⟨store, hspares, hw⟩ := h.exists_spares
  obtain ⟨n, hn⟩ := hspares.probes
  have hprobes : w.store.probes = store.probes := by
    obtain hw | hw := hw <;> rw [hw]
    rfl
  intro e he
  rw [hprobes, hn, Array.mem_append, Array.mem_replicate] at he
  exact he.elim (hv e) And.right

/-- The body of a rule does not own the rule. -/
theorem Kept.not_owns_body (h : w.Kept) (hj : w.store.slots[j]? = some (.installed body)) :
    ¬ w.store.Owns [body] (.slot j) := fun ho =>
  (h.sturdy j ⟨body, hj⟩).not_transGen
    (ho.transGen (by rw [Store.ownedBy_slot hj]; exact List.Subset.refl _))

theorem Amid.slots_eq (h : w.Amid s) (hj : j < w.store.slots.size) :
    s.slots[j]? = w.store.slots[j]? := by
  obtain ⟨_, hplays⟩ := h
  exact hplays.spares.slots j hj

/-- A rule that has an owner later on is as it was. -/
theorem History.body_eq (h : History v us w) (hw : w.Kept) (ho : w.store.Owns w.parsers (.slot j))
    (hs : w.Amid s) (hj : v.store.slots[j]? = some (.installed body)) : s.body j = .ok body := by
  obtain ⟨hlt, hslot⟩ := h.onward j (Array.getElem?_eq_some_iff.1 hj).1
  rw [Store.body_eq_ok_iff, hs.slots_eq hlt]
  obtain hslot | hslot := hslot
  · rw [hslot, hj]
  · obtain ⟨body', hbody⟩ := (hw.stands ho).has
    rw [hbody] at hslot
    cases hslot

/-- A rule that has been released stays so. -/
theorem History.body_eq_of_released (h : History v us w) (hs : w.Amid s)
    (hj : v.store.slots[j]? = some .released) : s.body j = .error .detachedRule := by
  obtain ⟨hlt, hslot⟩ := h.onward j (Array.getElem?_eq_some_iff.1 hj).1
  have hslot' : s.slots[j]? = some .released := by
    rw [hs.slots_eq hlt]
    obtain hslot | hslot := hslot
    · rw [hslot, hj]
    · exact hslot
  rw [Store.body, hslot']

end

/-- In every workshop that one comes to: a parser of a grammar in which all names are bound never
comes to a handle without a rule, for as long as there is a clone of it. While the body of a rule is
being built its handle comes to an undefined rule. While some parser owns the rule, the rule and its
handle answer what the body does, which does not own the rule itself; and once no parser owns the
rule, its handle comes to a detached rule for ever. All this holds of sessions. -/
theorem handles_follow_owners {ts : List Trace} {w : Workshop} (h : History empty ts w) :
    (∀ rules grammar p store v s input position error t,
      (Grammar.closed rules grammar).Always rules (Closure.Linked rules) →
      grammar.build rules [] w.store = (.ok p, store) →
      Stays p (settle ⟨p :: w.parsers, store⟩) v → v.Amid s →
      p.invoke input position s = some (.error error, t) →
      error ≠ .undefinedRule ∧ error ≠ .detachedRule) ∧
    (∀ (store : Store) name exposed probed s input position,
      (Grammar.openRule name exposed probed store).Proceeds s →
      (Parser.handle store.slots.size).invoke input position s =
        some (.error .undefinedRule, s)) ∧
    (∀ e ∈ w.store.probes, e = .undefinedRule) ∧
    (∀ j, w.store.Owns w.parsers (.slot j) → ∃ body, ¬ w.store.Owns [body] (.slot j) ∧
      ∀ us v s input position, History w us v → v.store.Owns v.parsers (.slot j) → v.Amid s →
        (Parser.rule j).invoke input position s = body.invoke input position s ∧
        (Parser.handle j).invoke input position s = body.invoke input position s) ∧
    (∀ j < w.store.slots.size, ¬ w.store.Owns w.parsers (.slot j) →
      ∀ us v s input position, History w us v → v.Amid s →
        (Parser.handle j).invoke input position s = some (.error .detachedRule, s)) ∧
    ∀ rules grammar options tracked s₀ store s,
      Session.start rules grammar options tracked = (.ok s₀, store) →
      (Session.Passes s₀ s → ∃ us, History empty us ⟨s.roots, s.store⟩) ∧
      (Session.Reaches s₀ s → (Grammar.closed rules grammar).Always rules (Closure.Linked rules) →
        ∀ input position error t, s.invoke input position = some (.error error, t) →
          error ≠ .undefinedRule ∧ error ≠ .detachedRule) := by
  have hkept := h.kept
  refine ⟨?_, ?_, ?_, ?_, ?_, ?_⟩
  · intro rules grammar p store v s input position error t hall hb hstays hs hi
    obtain ⟨failures, hd⟩ := hstays.exists_derives hb hs hi
    exact hall.ne_ruleless hd
  · exact fun store name exposed probed s input position hs =>
      Parser.invoke_of_body_error hs.body_openRule
  · exact h.keeps (P := fun w => ∀ e ∈ w.store.probes, e = .undefinedRule)
      (fun _ _ _ => Turn.forall_probes) (fun _ he => by simp [empty, Store.empty] at he)
  · intro j ho
    obtain ⟨body, hj⟩ := (hkept.stands ho).has
    refine ⟨body, hkept.not_owns_body hj, fun us v s input position hv ho' hs => ?_⟩
    have hbody := hv.body_eq (h.trans hv).kept ho' hs hj
    exact ⟨Parser.invoke_of_body (.inl rfl) hbody, Parser.invoke_of_body (.inr rfl) hbody⟩
  · intro j hj ho us v s input position hv hs
    exact Parser.invoke_of_body_error (hv.body_eq_of_released hs (hkept.released j hj ho))
  · refine fun rules grammar options tracked s₀ store s hstart =>
      ⟨Session.exists_history hstart, fun hreach hall input position error t hi => ?_⟩
    obtain ⟨failures, hd, -⟩ := ((Session.sound_start hstart).reaches hreach).exists_derives hi
    exact hall.ne_ruleless hd

/-- A letter in parentheses; the handle is invoked too early, and known to the outside. -/
def outgoing : Grammar :=
  .recursive "nested" true true
    (.choice [.sequence [.literal "(", .var "nested", .literal ")"], .deferred (.literal "x")])

/-- The handle of `outgoing` before the body is there, next to the rule, after a clone of the rule has
taken the place of the rule, and after the rule has been dropped. -/
theorem handles_follow_owners_outgoing :
    ∃ s₀ store v, Session.start [] outgoing {} false = (.ok s₀, store) ∧
      s₀.store.probes = #[.undefinedRule] ∧
      (Parser.handle 0).invoke "x".toList 0 (Grammar.openRule "nested" true true Store.empty) =
        some (.error .undefinedRule, Grammar.openRule "nested" true true Store.empty) ∧
      (∀ input position, (Parser.handle 0).invoke input position s₀.store =
        (Parser.rule 0).invoke input position s₀.store) ∧
      Stays (.rule 0) s₀.workshop v ∧
      (∀ input position error t, (Parser.rule 0).invoke input position v.store =
        some (.error error, t) → error ≠ .undefinedRule ∧ error ≠ .detachedRule) ∧
      (∀ input position error t, s₀.invoke input position = some (.error error, t) →
        error ≠ .undefinedRule ∧ error ≠ .detachedRule) ∧
      ∀ input position, (Parser.handle 0).invoke input position s₀.drop.store =
        some (.error .detachedRule, s₀.drop.store) := by
  let p : Parser := .rule 0
  let store := (outgoing.build [] [] Store.empty).2
  let s₀ : Session := Session.settle ⟨some { parser := p }, store⟩ store
  have hstart : Session.start [] outgoing {} false = (.ok s₀, store) := rfl
  have hall : (outgoing.closed []).Always [] (Closure.Linked []) :=
    Closure.SelfContained.always_linked (.mk rfl nofun)
  have hstays : Stays p s₀.workshop (settle ⟨[p], s₀.store⟩) :=
    .turn (.turn (.refl List.mem_cons_self) (.clone List.mem_cons_self) List.mem_cons_self)
      (@Turn.drop ⟨[p, p], s₀.store⟩ [] [p] p rfl) List.mem_cons_self
  obtain ⟨hlinked, hopen, -, -, -, hsessions⟩ := handles_follow_owners (.refl empty)
  obtain ⟨hpasses, hreaches⟩ := hsessions [] outgoing {} false s₀ store _ hstart
  obtain ⟨us, hdropped⟩ := (hsessions [] outgoing {} false s₀ store s₀.drop hstart).1 (.drop .refl)
  obtain ⟨us, hs₀⟩ := hpasses .refl
  obtain ⟨-, -, -, howned, -, -⟩ := handles_follow_owners hs₀
  obtain ⟨-, -, -, -, hreleased, -⟩ := handles_follow_owners hdropped
  have ho : s₀.store.Owns s₀.roots (.slot 0) := .root List.mem_cons_self
  obtain ⟨body, -, hbody⟩ := howned 0 ho
  refine ⟨s₀, store, _, hstart, rfl, hopen Store.empty "nested" true true _ _ _ (.refl _), ?_,
    hstays, ?_, hreaches .refl hall, ?_⟩
  · intro input position
    obtain ⟨hrule, hhandle⟩ := hbody _ _ _ input position (.refl _) ho (.refl _)
    exact hhandle.trans hrule.symm
  · exact fun input position error t hi =>
      hlinked [] outgoing p store _ _ input position error t hall rfl hstays (.refl _) hi
  · have hnone : ¬ s₀.drop.store.Owns s₀.drop.roots (.slot 0) := Store.not_owns_nil _ _
    exact fun input position =>
      hreleased 0 (by decide) hnone _ _ _ input position (.refl _) (.refl _)

end Workshop

end Descent
