import Descent.Proofs.Calc.Scan

/-!
# How expressions end

An expression does not match where its tokens come to an impasse (`Stuck`): tokens are wanted one
after another up to a position where none is that stands there, and what was wanted is the farthest
failure. It matches up to where no operator follows, or an operator follows and then an impasse
(`Ends`). There is nothing else (`expressionOutcome`); in particular, no error is raised.
-/

namespace Descent.Calc

open Need

/-- No token that is wanted stands at the position. -/
def Blocked (options : CalcOptions) (input : List Char) (need : Need) (position : Nat) : Prop :=
  ∀ token next need', TokenAt options input position token next → ¬ need.Takes token need'

/-- From the position on, where an atom is wanted, these tokens are followed by none that is wanted.
No expression ends on the way, and the farthest failure is that of the tokens that were wanted. -/
structure Impasse (options : CalcOptions) (input : List Char) (position : Nat)
    (failures : List Failure) (tokens : List (List Char)) (need : Need) (last : Nat) : Prop where
  scans : Scans options input position tokens last
  takes : TakesAll (.atom 0) tokens need
  blocked : Blocked options input need last
  farthest : Failure.farthest? failures = some ⟨last, need.labels⟩
  unfinished : ∀ tokens', tokens' <+: tokens → ¬ TakesAll (.atom 0) tokens' (.operator 0)

def Stuck (options : CalcOptions) (input : List Char) (position : Nat)
    (failures : List Failure) : Prop :=
  ∃ tokens need last, Impasse options input position failures tokens need last

/-- What follows an expression that matches up to the position: no operator, or one that leads
nowhere. -/
inductive Ends (options : CalcOptions) (input : List Char) (position : Nat)
    (failures : List Failure) : Prop
  | complete : Blocked options input (.operator 0) position →
      Failure.farthest? failures = some ⟨position, (Need.operator 0).labels⟩ →
      Ends options input position failures
  | cut {op : Operator} {next : Nat} : TokenAt options input position [op.symbol] next →
      Stuck options input next failures → Ends options input position failures

/-- An atom matches, and all failures are before its end; or there is an impasse. -/
inductive AtomOutcome (options : CalcOptions) (input : List Char) (position : Nat) : Prop
  | reads {v : Value} {next : Nat} {failures : List Failure} {tokens : List (List Char)} :
      Derives [] input (.whole (atomMeaning options)) position (.ok (.success v next)) failures →
      Scans options input position tokens next → TakesAll (.atom 0) tokens (.operator 0) →
      (∀ f ∈ failures, f.position < next) → AtomOutcome options input position
  | stuck {failures : List Failure} :
      Task.Misses [] input (.whole (atomMeaning options)) position failures →
      Stuck options input position failures → AtomOutcome options input position

/-- An expression matches, or there is an impasse. -/
inductive ExpressionOutcome (options : CalcOptions) (input : List Char) (position : Nat) : Prop
  | reads {v : Value} {next : Nat} {failures : List Failure} {tokens : List (List Char)} :
      Derives [] input (.whole (expressionMeaning options)) position (.ok (.success v next))
        failures →
      Scans options input position tokens next → TakesAll (.atom 0) tokens (.operator 0) →
      Ends options input next failures → ExpressionOutcome options input position
  | stuck {failures : List Failure} :
      Task.Misses [] input (.whole (expressionMeaning options)) position failures →
      Stuck options input position failures → ExpressionOutcome options input position

section
variable {options : CalcOptions} {input text : List Char} {position next mid last : Nat}
  {v w : Value} {ws : List Value} {failures failures' : List Failure}
  {tokens tokens' : List (List Char)} {need need' : Need}

/-! ## Impasses -/

theorem Blocked.deeper (h : Blocked options input need position) (hne : need ≠ .operator 0) :
    Blocked options input need.deeper position := by
  intro token next need' ht htakes
  obtain ⟨need'', htakes'⟩ := htakes.exists_of_deeper hne
  exact h token next need'' ht htakes'

/-- Where nothing that is wanted stands, tokens end that are wanted one after another. -/
theorem Blocked.longest (h : Blocked options input need last)
    (hs : Scans options input position tokens last) (ht : TakesAll (.atom 0) tokens need)
    (hs' : Scans options input position tokens' next) (ht' : TakesAll (.atom 0) tokens' need') :
    ∃ more, tokens = tokens' ++ more ∧ Scans options input next more last := by
  rcases hs.comparable hs' with ⟨more, rfl, hm⟩ | ⟨more, rfl, hm⟩
  · obtain ⟨mid, htm, hmore⟩ := takesAll_append_iff.1 ht'
    obtain rfl := ht.unique htm
    cases hm with
    | nil => exact ⟨[], by simp, .nil⟩
    | cons htoken _ =>
      obtain ⟨need'', htakes, -⟩ := takesAll_cons_iff.1 hmore
      exact absurd htakes (h _ _ _ htoken)
  · exact ⟨more, rfl, hm⟩

namespace Impasse

theorem longest (h : Impasse options input position failures tokens need last)
    (hs : Scans options input position tokens' next) (ht : TakesAll (.atom 0) tokens' need') :
    ∃ more, tokens = tokens' ++ more ∧ Scans options input next more last :=
  h.blocked.longest h.scans h.takes hs ht

theorem ne_operator_zero (h : Impasse options input position failures tokens need last) :
    need ≠ .operator 0 := by
  rintro rfl
  exact h.unfinished tokens (List.prefix_refl _) h.takes

/-- Failures before the start do not count. -/
theorem append (h : Impasse options input position failures' tokens need last)
    (hn : ∀ f ∈ failures, f.position < position) :
    Impasse options input position (failures ++ failures') tokens need last :=
  { h with
    farthest := Failure.farthest?_append_right
      (fun f hf => Nat.lt_of_lt_of_le (hn f hf) h.scans.le) h.farthest }

/-- An impasse behind a parenthesis is one of the atom that starts with it. A number was tried
first. -/
theorem inside (ho : TokenAt options input position ['('] mid)
    (hs : Scans options input mid tokens last) (ht : TakesAll (.atom 0) tokens need)
    (hb : Blocked options input need.deeper last)
    (hf : Failure.farthest? failures = some ⟨last, need.deeper.labels⟩) :
    Impasse options input position (⟨position, "number"⟩ :: failures) (['('] :: tokens) need.deeper
      last where
  scans := .cons ho hs
  takes := .cons .opening ht.deeper
  blocked := hb
  farthest := Failure.farthest?_append_right
    (List.forall_mem_singleton.2 (Nat.lt_of_lt_of_le ho.lt hs.le)) hf
  unfinished := by
    intro tokens' hp htakes
    rcases List.prefix_cons_iff.1 hp with rfl | ⟨tokens', rfl, rest, rfl⟩
    · cases htakes
    · obtain ⟨need', hneed, htakes⟩ := takesAll_cons_iff.1 htakes
      obtain rfl := Takes.opening.unique hneed
      obtain ⟨need', hinner, -⟩ := takesAll_append_iff.1 ht
      exact hinner.ne_operator_zero htakes rfl

end Impasse

theorem Stuck.append (h : Stuck options input position failures')
    (hn : ∀ f ∈ failures, f.position < position) :
    Stuck options input position (failures ++ failures') := by
  obtain ⟨tokens, need, last, h⟩ := h
  exact ⟨tokens, need, last, h.append hn⟩

theorem Ends.append (h : Ends options input next failures')
    (hn : ∀ f ∈ failures, f.position < next) : Ends options input next (failures ++ failures') := by
  cases h with
  | complete hb hf => exact .complete hb (Failure.farthest?_append_right hn hf)
  | cut ht hs => exact .cut ht (hs.append fun f hf => Nat.lt_trans (hn f hf) ht.lt)

/-! ## Derivations -/

theorem derives_expression
    (ha : Derives [] input (.whole (atomMeaning options)) position (.ok (.success w mid)) failures)
    (hi : Derives [] input (.iterations (pairMeaning options)) mid
      (.ok (.success (.arr ws) next)) failures') :
    Derives [] input (.whole (expressionMeaning options)) position
      (.ok (.success (treeValue (.arr [w, .arr ws])) next)) (failures ++ failures') := by
  have hatom : Derives [] input (.whole ⟨.var "atom", 0, bodyScope options⟩) position _ _ :=
    .means (.var rfl) ha
  have hpairs : Derives [] input (.whole ⟨.many (pairMeaning options).grammar, 0,
    bodyScope options⟩) mid _ _ := .many rfl hi
  have hparts := Derives.parts_cons hatom (.parts_cons hpairs .parts_nil)
  rw [List.append_nil] at hparts
  exact .means .recursive (.means .bind (.reshapes .transform_match (.sequence rfl hparts)))

theorem misses_expression
    (h : Task.Misses [] input (.whole (atomMeaning options)) position failures) :
    Task.Misses [] input (.whole (expressionMeaning options)) position failures :=
  .means .recursive (.means .bind (.transform (.sequence (.parts_here (.means (.var rfl) h)))))

theorem derives_pair
    (ho : Derives [] input (.whole ⟨operator options, 0, bodyScope options⟩) position
      (.ok (.success v mid)) [])
    (ha : Derives [] input (.whole (atomMeaning options)) mid (.ok (.success w next)) failures) :
    Derives [] input (.whole (pairMeaning options)) position (.ok (.success (.arr [v, w]) next))
      failures := by
  rw [← List.append_nil failures]
  exact .sequence rfl (.parts_cons ho (.parts_cons (.means (.var rfl) ha) .parts_nil))

theorem misses_pair
    (ho : Derives [] input (.whole ⟨operator options, 0, bodyScope options⟩) position
      (.ok (.success v mid)) [])
    (ha : Task.Misses [] input (.whole (atomMeaning options)) mid failures) :
    Task.Misses [] input (.whole (pairMeaning options)) position failures :=
  .sequence (.parts_next ho (.parts_here (.means (.var rfl) ha)))

theorem derives_iterations_nil
    (h : Task.Misses [] input (.whole (pairMeaning options)) position failures) :
    Derives [] input (.iterations (pairMeaning options)) position
      (.ok (.success (.arr []) position)) failures := by
  obtain ⟨o, hd, ho⟩ := h
  exact .iterations_stop hd ho

/-- The part of an atom between parentheses. -/
def groupMeaning (options : CalcOptions) : Closure :=
  ⟨.transform (Value.item 1) (.sequence [opening options, .var "expression", closing options]), 0,
    atomScope options⟩

theorem derives_group {w' : Value}
    (ho : Derives [] input (.whole ⟨opening options, 0, atomScope options⟩) position
      (.ok (.success w mid)) [])
    (he : Derives [] input (.whole (expressionMeaning options)) mid (.ok (.success v last))
      failures)
    (hc : Derives [] input (.whole ⟨closing options, 0, atomScope options⟩) last
      (.ok (.success w' next)) []) :
    Derives [] input (.whole (groupMeaning options)) position (.ok (.success v next)) failures := by
  have hexpression : Derives [] input (.whole ⟨.var "expression", 0, atomScope options⟩) mid _ _ :=
    .means (.var rfl) he
  have hparts := Derives.parts_cons ho (.parts_cons hexpression (.parts_cons hc .parts_nil))
  rw [List.append_nil, List.append_nil] at hparts
  have hsequence : Derives [] input (.whole ((groupMeaning options).inner
    (.sequence [opening options, .var "expression", closing options]))) position _ _ :=
    .sequence rfl hparts
  have hgroup := Derives.reshapes (c := groupMeaning options) .transform_match hsequence
  exact hgroup

theorem misses_group
    (ho : Derives [] input (.whole ⟨opening options, 0, atomScope options⟩) position
      (.ok (.success w mid)) [])
    (he : Task.Misses [] input (.whole (expressionMeaning options)) mid failures) :
    Task.Misses [] input (.whole (groupMeaning options)) position failures := by
  have hexpression : Task.Misses [] input (.whole ⟨.var "expression", 0, atomScope options⟩) mid
    failures := .means (.var rfl) he
  exact .transform (.sequence (.parts_next ho (.parts_here hexpression)))

theorem misses_group_unclosed
    (ho : Derives [] input (.whole ⟨opening options, 0, atomScope options⟩) position
      (.ok (.success w mid)) [])
    (he : Derives [] input (.whole (expressionMeaning options)) mid (.ok (.success v last))
      failures)
    (hc : Task.Misses [] input (.whole ⟨closing options, 0, atomScope options⟩) last failures') :
    Task.Misses [] input (.whole (groupMeaning options)) position (failures ++ failures') := by
  have hexpression : Derives [] input (.whole ⟨.var "expression", 0, atomScope options⟩) mid _ _ :=
    .means (.var rfl) he
  have hclosing : Task.Misses [] input (.parts [⟨closing options, 0, atomScope options⟩]) last
    failures' := .parts_here hc
  have hparts := Task.Misses.parts_next ho (.parts_next hexpression hclosing)
  exact .transform (.sequence hparts)

theorem derives_atom
    (hn : Task.Misses [] input (.whole ⟨number options, 0, atomScope options⟩) position
      [⟨position, "number"⟩])
    (hg : Derives [] input (.whole (groupMeaning options)) position (.ok (.success v next))
      failures) :
    Derives [] input (.whole (atomMeaning options)) position (.ok (.success v next))
      (⟨position, "number"⟩ :: failures) := by
  obtain ⟨o, hd, ho⟩ := hn
  exact .choice rfl (.alternatives_next hd ho (.alternatives_match hg rfl))

theorem misses_atom
    (hn : Task.Misses [] input (.whole ⟨number options, 0, atomScope options⟩) position
      [⟨position, "number"⟩])
    (hg : Task.Misses [] input (.whole (groupMeaning options)) position failures) :
    Task.Misses [] input (.whole (atomMeaning options)) position
      (⟨position, "number"⟩ :: failures) := by
  have := Task.Misses.alternatives_next hn (.alternatives_next hg .alternatives_nil)
  rw [List.append_nil] at this
  exact .choice this

/-! ## Atoms -/

/-- Neither a number nor a parenthesis stands there. -/
theorem blocked_atom {d : Nat}
    (hn : ∀ token v next, spellsNumber token v → ¬ TokenAt options input position token next)
    (ho : ∀ token v next, spellsText "(" token v → ¬ TokenAt options input position token next) :
    Blocked options input (.atom d) position := by
  intro token next need ht htakes
  rcases takes_atom_iff.1 htakes with ⟨n, hle, rfl, -⟩ | ⟨rfl, -⟩
  · exact hn _ _ next ⟨n, hle, rfl, rfl⟩ ht
  · exact ho _ _ next ⟨rfl, rfl⟩ ht

/-- Neither an operator nor a parenthesis stands there. -/
theorem blocked_operator {d : Nat} (ho : Blocked options input (.operator 0) position)
    (hc : ∀ token v next, spellsText ")" token v → ¬ TokenAt options input position token next) :
    Blocked options input (.operator d) position := by
  intro token next need ht htakes
  rcases takes_operator_iff.1 htakes with ⟨op, rfl, -⟩ | ⟨rfl, -⟩
  · exact ho _ next _ ht (.operator op)
  · exact hc _ _ next ⟨rfl, rfl⟩ ht

/-- What comes of a parenthesis that is not closed behind an expression. -/
theorem stuck_of_ends (ho : TokenAt options input position ['('] mid)
    (hs : Scans options input mid tokens last) (ht : TakesAll (.atom 0) tokens (.operator 0))
    (he : Ends options input last failures)
    (hc : ∀ token v next, spellsText ")" token v → ¬ TokenAt options input last token next) :
    Stuck options input position (⟨position, "number"⟩ :: (failures ++ [⟨last, "')'"⟩])) := by
  cases he with
  | complete hb hf =>
    have hlabels : "')'" ∉ (Need.operator 0).labels := by decide
    exact ⟨_, _, last, .inside ho hs ht (blocked_operator hb hc)
      (Failure.farthest?_append_label hf hlabels)⟩
  | @cut op next hop hstuck =>
    obtain ⟨tokens', need, peak, h⟩ := hstuck
    have hbeyond : last < peak := Nat.lt_of_lt_of_le hop.lt h.scans.le
    refine ⟨_, _, peak, .inside ho (hs.append (.cons hop h.scans))
      (ht.append (.cons (.operator op) h.takes)) (h.blocked.deeper h.ne_operator_zero) ?_⟩
    rw [labels_deeper h.ne_operator_zero]
    exact Failure.farthest?_append_left h.farthest (List.forall_mem_singleton.2 hbeyond)

/-- A parenthesis that stands where an expression ends is no operator, so that nothing is cut. -/
theorem Ends.lt_of_closing (he : Ends options input last failures)
    (hc : TokenAt options input last [')'] next) : ∀ f ∈ failures, f.position < next := by
  cases he with
  | complete hb hf =>
    exact fun f hfm => Nat.lt_of_le_of_lt (Failure.le_of_farthest? hf f hfm) hc.lt
  | @cut op mid hop _ =>
    have hsymbol := (hop.unique hc).1
    cases op <;> simp [Operator.symbol] at hsymbol

/-- What comes of an atom that starts with a parenthesis, by what comes of the expression in it. -/
theorem atomOutcome_of_opening (ho : TokenAt options input position ['('] mid)
    (hnumber : Task.Misses [] input (.whole ⟨number options, 0, atomScope options⟩) position
      [⟨position, "number"⟩])
    (hopen : Derives [] input (.whole ⟨opening options, 0, atomScope options⟩) position
      (.ok (.success w mid)) [])
    (hx : ExpressionOutcome options input mid) : AtomOutcome options input position := by
  cases hx with
  | @reads v last failures tokens hd hs ht he =>
    obtain ⟨rest, hat⟩ := ho.exists_at
    obtain ⟨rest', hat'⟩ := hs.exists_at hat
    rcases decides_closing options (atomScope options) hat' with
      ⟨_, w, next, ⟨rfl, rfl⟩, hc, hclose⟩ | ⟨hclosing, hnone⟩
    · have hlt : position < next := Nat.lt_trans (Nat.lt_of_lt_of_le ho.lt hs.le) hc.lt
      exact .reads (derives_atom hnumber (derives_group hopen hd hclose))
        (.cons ho (hs.append (.singleton hc)))
        (.cons .opening (ht.deeper.append (.cons .closing .nil)))
        (List.forall_mem_cons.2 ⟨hlt, he.lt_of_closing hc⟩)
    · exact .stuck (misses_atom hnumber (misses_group_unclosed hopen hd hclosing))
        (stuck_of_ends ho hs ht he hnone)
  | @stuck failures hmiss hstuck =>
    obtain ⟨tokens, need, last, h⟩ := hstuck
    have hf := h.farthest
    rw [← labels_deeper h.ne_operator_zero] at hf
    exact .stuck (misses_atom hnumber (misses_group hopen hmiss)) ⟨_, _, last,
      .inside ho h.scans h.takes (h.blocked.deeper h.ne_operator_zero) hf⟩

/-- What comes of an atom if it is known what comes of expressions further on. -/
theorem atomOutcome_of_expressions (hat : Text.At input position text)
    (hx : ∀ mid rest, position < mid → Text.At input mid rest →
      ExpressionOutcome options input mid) : AtomOutcome options input position := by
  rcases decides_number options (atomScope options) hat with
    ⟨_, v, next, ⟨n, hn, rfl, rfl⟩, ht, hd⟩ | ⟨hnumber, hnone⟩
  · refine .reads (.choice rfl (.alternatives_match hd rfl)) (.singleton ht)
      (.cons (.number hn) .nil) ?_
    simp
  rcases decides_opening options (atomScope options) hat with
    ⟨_, w, mid, ⟨rfl, rfl⟩, ho, hopen⟩ | ⟨hopening, hnone'⟩
  · obtain ⟨rest, hat'⟩ := ho.exists_at
    exact atomOutcome_of_opening ho hnumber hopen (hx mid rest ho.lt hat')
  · refine .stuck (misses_atom hnumber (.transform (.sequence (.parts_here hopening))))
      ⟨[], .atom 0, position, .nil, .nil, blocked_atom hnone hnone', ?_, ?_⟩
    · have hlabel : "'('" ∉ ["number"] := by decide
      exact Failure.farthest?_append_label (Failure.farthest?_singleton ⟨position, "number"⟩) hlabel
    · intro tokens' hp ht
      obtain rfl := List.prefix_nil.1 hp
      cases ht

/-! ## Expressions -/

/-- Operators with their atoms match up to where an expression ends. -/
theorem exists_pairs (hat : Text.At input position text)
    (ha : ∀ mid rest, position ≤ mid → Text.At input mid rest → AtomOutcome options input mid) :
    ∃ ws tokens next failures,
      Derives [] input (.iterations (pairMeaning options)) position
        (.ok (.success (.arr ws) next)) failures ∧
      Scans options input position tokens next ∧ TakesAll (.operator 0) tokens (.operator 0) ∧
      Ends options input next failures := by
  induction hn : Text.byteLength input - position using Nat.strongRecOn
    generalizing position text with
  | ind n ih =>
    rcases decides_operator options (bodyScope options) hat with
      ⟨_, _, mid, ⟨op, rfl, rfl⟩, ho, hd⟩ | ⟨hmiss, hnone⟩
    · obtain ⟨rest, hat'⟩ := ho.exists_at
      cases ha mid rest (Nat.le_of_lt ho.lt) hat' with
      | @reads w next failures tokens hatom hs ht hbefore =>
        have hlt : position < next := Nat.lt_of_lt_of_le ho.lt hs.le
        obtain ⟨rest', hat''⟩ := hs.exists_at hat'
        obtain ⟨ws, tokens', last, failures', hi, hs', ht', he⟩ :=
          ih _ (by have := hat''.le_length; omega) hat''
            (fun mid rest hmid => ha mid rest (Nat.le_trans (Nat.le_of_lt hlt) hmid)) rfl
        exact ⟨_, _, last, _,
          .iterations_next (derives_pair hd hatom) (Nat.ne_of_gt hlt) hi,
          .cons ho (hs.append hs'), .cons (.operator op) (ht.append ht'),
          he.append fun f hf => Nat.lt_of_lt_of_le (hbefore f hf) hs'.le⟩
      | stuck hatom hstuck =>
        exact ⟨[], [], position, _, derives_iterations_nil (misses_pair hd hatom), .nil, .nil,
          .cut ho hstuck⟩
    · refine ⟨[], [], position, _, derives_iterations_nil (.sequence (.parts_here hmiss)), .nil,
        .nil, .complete ?_ (Failure.farthest?_singleton _)⟩
      intro token next need' ht htakes
      rcases takes_operator_iff.1 htakes with ⟨op, rfl, -⟩ | ⟨-, d, hd, -⟩
      · exact hnone _ _ next ⟨op, rfl, rfl⟩ ht
      · cases hd

/-- What comes of an expression if it is known what comes of atoms. -/
theorem expressionOutcome_of_atoms (hat : Text.At input position text)
    (ha : ∀ mid rest, position ≤ mid → Text.At input mid rest → AtomOutcome options input mid) :
    ExpressionOutcome options input position := by
  cases ha position text (Nat.le_refl _) hat with
  | @reads w mid failures tokens hatom hs ht hbefore =>
    obtain ⟨rest, hat'⟩ := hs.exists_at hat
    obtain ⟨ws, tokens', next, failures', hi, hs', ht', he⟩ :=
      exists_pairs hat' fun mid' rest hmid => ha mid' rest (Nat.le_trans hs.le hmid)
    exact .reads (derives_expression hatom hi) (hs.append hs') (ht.append ht')
      (he.append fun f hf => Nat.lt_of_lt_of_le (hbefore f hf) hs'.le)
  | stuck hatom hstuck => exact .stuck (misses_expression hatom) hstuck

/-- An expression matches or comes to an impasse, at each position. -/
theorem expressionOutcome (options : CalcOptions) (hat : Text.At input position text) :
    ExpressionOutcome options input position := by
  -- An expression in parentheses starts further on in the input.
  induction hn : Text.byteLength input - position using Nat.strongRecOn
    generalizing position text with
  | ind n ih =>
    refine expressionOutcome_of_atoms hat fun mid rest hmid hat' => ?_
    refine atomOutcome_of_expressions hat' fun mid' rest' hlt hat'' => ?_
    have := hat''.le_length
    exact ih _ (by omega) hat'' rfl

end

end Descent.Calc
