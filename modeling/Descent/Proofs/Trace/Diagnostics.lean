import Descent.Proofs.Meaning.Farthest
import Descent.Proofs.Meaning.Similar
import Descent.Proofs.Meaning.Unlabelled
import Descent.Proofs.Trace.Induction

/-!
# What readers tell of failures

The farthest failure that a tracked reader tells is that of the failures during this very call, and
neither the history of the session nor the labels nor the tracker show in anything else that readers
answer (`Session.diagnostics_are_additive`).
-/

namespace Descent

/-- The error without what is told of failures. -/
def ParseError.hushed : ParseError → ParseError
  | noMatch _ => noMatch none
  | error => error

/-- The answer without what is told of failures. -/
abbrev Reader.hushed {α : Type} : Except ParseError α → Except ParseError α :=
  Except.mapError ParseError.hushed

namespace Reader

variable {input : List Char}

/-- Without the failures, an answer to a prefix is a function of the step. -/
theorem hushed_prefixAnswer (step : Step) (farthest? : Option Farthest) :
    hushed (step.prefixAnswer farthest?) = hushed (step.prefixAnswer none) := by
  match step with
  | .error _ | .ok (.success _ _) | .ok (.failure _) | .ok (.rejected _ _) => rfl

theorem hushed_complete (options : ReaderOptions) (answer : Except ParseError (Value × Nat)) :
    hushed (options.complete input answer) = hushed (options.complete input (hushed answer)) := by
  match answer with
  | .ok _ => rfl
  | .error e => cases e <;> rfl

/-- The farthest failure that a tracked reader tells is that of the failures during the call. -/
theorem told_of_parsePrefix {reader : Reader} {store store' : Store} {farthest? : Option Farthest}
    (ht : reader.tracked = true)
    (h : reader.parsePrefix input store = some (.error (.noMatch farthest?), store')) :
    ∃ inner step after, reader.parser.Traces input 0 (reader.fresh store) inner step after ∧
      farthest? = Failure.farthest? (Trace.failures [.call reader.parser 0 inner step after]) := by
  obtain ⟨step, after, hi, heq⟩ := exists_parsePrefix_iff.1 ⟨store', h⟩
  obtain ⟨inner, htrace⟩ := Parser.invoke_iff_traces.1 hi
  refine ⟨inner, step, after, htrace, ?_⟩
  have htracker : after.tracker.farthest? =
      Failure.farthest? (Trace.failures [.call reader.parser 0 inner step after]) := by
    rw [htrace.accounts.tracker, ← Tracker.farthest?_recordAll, fresh, if_pos ht]
    rfl
  rw [if_pos ht, htracker] at heq
  cases step with
  | error e => cases heq
  | ok o =>
    cases o with
    | success v next => cases heq
    | failure next | rejected v next =>
      cases heq
      rfl

end Reader

namespace Session

/-- What the reader of the session answers to an input. -/
def parsed (input : List Char) (s : Session) : Option (Except ParseError Value) :=
  (s.use fun reader => reader.parse input).map Prod.fst

/-- What the reader of the session answers to the start of an input. -/
def parsedPrefix (input : List Char) (s : Session) : Option (Except ParseError (Value × Nat)) :=
  (s.use fun reader => reader.parsePrefix input).map Prod.fst

section
variable {rules rules' : Rules} {g g' : Grammar} {s t : Session} {reader reader' : Reader}
  {input : List Char}

theorem exists_of_map_fst {α : Type} {result : Option (α × Session)} {a : α} :
    result.map Prod.fst = some a ↔ ∃ t, result = some (a, t) := by
  simp [Option.map_eq_some_iff]

theorem Sound.parsedPrefix_eq_some_iff (h : s.Sound rules (g.closed rules))
    (hr : s.reader? = some reader) {answer : Except ParseError (Value × Nat)} :
    s.parsedPrefix input = some answer ↔ ∃ step failures,
      Derives rules input (.whole (g.closed rules)) 0 step failures ∧
        answer = step.prefixAnswer (reader.told failures) := by
  obtain ⟨reader', L, hr', hb, hs, -⟩ := h
  obtain rfl := Option.some.inj (hr.symm.trans hr')
  rw [parsedPrefix, exists_of_map_fst, exists_use_iff hr, Reader.parsePrefix_iff hb hs]

theorem Sound.parsed_eq_some_iff (h : s.Sound rules (g.closed rules))
    (hr : s.reader? = some reader) {answer : Except ParseError Value} :
    s.parsed input = some answer ↔ ∃ step failures,
      Derives rules input (.whole (g.closed rules)) 0 step failures ∧
        answer = reader.options.complete input (step.prefixAnswer (reader.told failures)) := by
  obtain ⟨reader', L, hr', hb, hs, -⟩ := h
  obtain rfl := Option.some.inj (hr.symm.trans hr')
  rw [parsed, exists_of_map_fst, exists_use_iff hr, Reader.parse_iff hb hs]

/-- What is made of answers does not change if the grammars answer the same, and what is made does
not depend on the failures. -/
theorem map_congr_of_answers {α β : Type} {a b : Option α} {f : α → β} {make make' : Step →
    List Failure → α} (hf : ∀ step failures failures', f (make step failures) =
      f (make' step failures'))
    (ha : ∀ x, a = some x ↔ ∃ step failures,
      Derives rules input (.whole (g.closed rules)) 0 step failures ∧ x = make step failures)
    (hb : ∀ x, b = some x ↔ ∃ step failures,
      Derives rules' input (.whole (g'.closed rules')) 0 step failures ∧ x = make' step failures)
    (h : ∀ step, g.Answers rules input 0 step ↔ g'.Answers rules' input 0 step) :
    a.map f = b.map f := by
  apply Option.ext
  intro y
  simp only [Option.map_eq_some_iff, ha, hb]
  constructor
  · rintro ⟨_, ⟨step, failures, hd, rfl⟩, rfl⟩
    obtain ⟨failures', hd'⟩ := (h step).1 ⟨failures, hd⟩
    exact ⟨_, ⟨step, failures', hd', rfl⟩, (hf _ _ _).symm⟩
  · rintro ⟨_, ⟨step, failures, hd, rfl⟩, rfl⟩
    obtain ⟨failures', hd'⟩ := (h step).2 ⟨failures, hd⟩
    exact ⟨_, ⟨step, failures', hd', rfl⟩, hf _ _ _⟩

/-- Readers with the same options whose grammars answer the same answer the same, but for what they
tell of failures. -/
theorem Sound.hushed_eq (hs : s.Sound rules (g.closed rules)) (ht : t.Sound rules' (g'.closed rules'))
    (hr : s.reader? = some reader) (hr' : t.reader? = some reader')
    (ho : reader'.options = reader.options)
    (h : ∀ step, g.Answers rules input 0 step ↔ g'.Answers rules' input 0 step) :
    (s.parsed input).map Reader.hushed = (t.parsed input).map Reader.hushed ∧
      (s.parsedPrefix input).map Reader.hushed = (t.parsedPrefix input).map Reader.hushed := by
  have hprefix : ∀ (step : Step) (failures failures' : List Failure),
      Reader.hushed (step.prefixAnswer (reader.told failures)) =
        Reader.hushed (step.prefixAnswer (reader'.told failures')) := fun step _ _ =>
    (Reader.hushed_prefixAnswer step _).trans (Reader.hushed_prefixAnswer step _).symm
  constructor
  · refine map_congr_of_answers (fun step failures failures' => ?_)
      (fun _ => hs.parsed_eq_some_iff hr) (fun _ => ht.parsed_eq_some_iff hr') h
    rw [Reader.hushed_complete, hprefix step failures failures', ← Reader.hushed_complete, ho]
  · exact map_congr_of_answers hprefix (fun _ => hs.parsedPrefix_eq_some_iff hr)
      (fun _ => ht.parsedPrefix_eq_some_iff hr') h

/-- A reader answers the same whatever has been done with its session. -/
theorem Sound.parsed_eq (hs : s.Sound rules (g.closed rules)) (ht : t.Sound rules (g.closed rules))
    (hr : s.reader? = some reader) (hr' : t.reader? = some reader) :
    s.parsed input = t.parsed input ∧ s.parsedPrefix input = t.parsedPrefix input := by
  refine ⟨Option.ext fun answer => ?_, Option.ext fun answer => ?_⟩
  · rw [hs.parsed_eq_some_iff hr, ht.parsed_eq_some_iff hr']
  · rw [hs.parsedPrefix_eq_some_iff hr, ht.parsedPrefix_eq_some_iff hr']

end

/-- However a session has been used, its reader answers the same; the farthest failure that it tells
is that of the failures during the call; and nothing else in its answers depends on whether there
are labels, or a tracker. -/
theorem diagnostics_are_additive {rules : Rules} {grammar : Grammar} {options : ReaderOptions}
    {s₀ s : Session} {store : Store} (hstart : start rules grammar options true = (.ok s₀, store))
    (hreach : Reaches s₀ s) (input : List Char) :
    (s.parsed input = s₀.parsed input ∧ s.parsedPrefix input = s₀.parsedPrefix input) ∧
    (∀ farthest?, s.parsed input = some (.error (.noMatch farthest?)) ∨
        s.parsedPrefix input = some (.error (.noMatch farthest?)) →
      ∃ reader inner step store', s.reader? = some reader ∧
        reader.parser.Traces input 0 (reader.fresh s.store) inner step store' ∧
        farthest? = Failure.farthest? (Trace.failures [.call reader.parser 0 inner step store'])) ∧
    ∀ (rules' : Rules) (grammar' : Grammar) (tracked : Bool),
      rules' = rules ∧ grammar' = grammar ∨
        rules' = rules.unlabelled ∧ grammar' = grammar.unlabelled →
      ∃ t₀ store', start rules' grammar' options tracked = (.ok t₀, store') ∧
        ∀ t, Reaches t₀ t →
          (t.parsed input).map Reader.hushed = (s.parsed input).map Reader.hushed ∧
            (t.parsedPrefix input).map Reader.hushed =
              (s.parsedPrefix input).map Reader.hushed := by
  have hs := (sound_start hstart).reaches hreach
  obtain ⟨p, hr₀⟩ := exists_reader_of_start hstart
  have hr : s.reader? = some ⟨p, options, true⟩ := by rw [hreach.reader?_eq, hr₀]
  refine ⟨hs.parsed_eq (sound_start hstart) hr hr₀, fun farthest? h => ?_,
    fun rules' grammar' tracked h => ?_⟩
  · have hprefix : ∃ store', Reader.parsePrefix ⟨p, options, true⟩ input s.store =
        some (.error (.noMatch farthest?), store') := by
      obtain h | h := h <;> replace h := (exists_use_iff hr).1 (exists_of_map_fst.1 h)
      · exact Reader.exists_parsePrefix_of_parse h
      · exact h
    obtain ⟨store', h⟩ := hprefix
    obtain ⟨inner, step, after, ht, hf⟩ := Reader.told_of_parsePrefix rfl h
    exact ⟨_, inner, step, after, hr, ht, hf⟩
  · have hanswers : grammar'.fault rules' = none ∧ ∀ step,
        grammar'.Answers rules' input 0 step ↔ grammar.Answers rules input 0 step := by
      have hfault := exists_start_iff.1 ⟨s₀, store, hstart⟩
      obtain ⟨rfl, rfl⟩ | ⟨rfl, rfl⟩ := h
      · exact ⟨hfault, fun _ => Iff.rfl⟩
      · have hrules := rules.relabelled_unlabelled
        have hgrammar := grammar.relabelled_unlabelled
        exact ⟨hrules.fault_eq hgrammar ▸ hfault, fun _ => (hgrammar.answers_iff hrules).symm⟩
    obtain ⟨t₀, store', hstart'⟩ :
        ∃ t₀ store', start rules' grammar' options tracked = (.ok t₀, store') :=
      exists_start_iff.2 hanswers.1
    obtain ⟨p', hr₀'⟩ := exists_reader_of_start hstart'
    refine ⟨t₀, store', hstart', fun t hreach' => ?_⟩
    have hr' : t.reader? = some ⟨p', options, tracked⟩ := by rw [hreach'.reader?_eq, hr₀']
    exact ((sound_start hstart').reaches hreach').hushed_eq hs hr' hr rfl hanswers.2

/-- A part that fails at the start, and behind a letter three that fail, two of them alike. -/
def choosy : Grammar :=
  .choice [.labelled "start" (.literal "b"),
    .sequence [.literal "a",
      .choice [.labelled "one" (.literal "1"), .labelled "two" (.literal "2")]],
    .sequence [.literal "a", .labelled "one" (.literal "1")]]

/-- What has been recorded before is not told. -/
theorem diagnostics_of_choosy :
    ∃ s₀ s t₀ store store', start [] choosy {} true = (.ok s₀, store) ∧ Reaches s₀ s ∧
      s.store.tracker.farthest? = some ⟨3, ["elsewhere"]⟩ ∧
      s₀.parsed "a3".toList = some (.error (.noMatch (some ⟨1, ["one", "two"]⟩))) ∧
      start [] choosy.unlabelled {} false = (.ok t₀, store') ∧
      (t₀.parsed "a3".toList).map Reader.hushed = some (.error (.noMatch none)) := by
  let p : Parser := .choice [.labelled "start" (.literal "b"),
    .sequence [.literal "a",
      .choice [.labelled "one" (.literal "1"), .labelled "two" (.literal "2")]],
    .sequence [.literal "a", .labelled "one" (.literal "1")]]
  let s₀ : Session := ⟨some ⟨p, {}, true⟩, Store.empty.collect [p]⟩
  have hstart : start [] choosy {} true = (.ok s₀, Store.empty) := rfl
  have hreach : Reaches s₀ (s₀.record 3 "elsewhere") := .step .refl (.record 3 "elsewhere")
  have hinvoke : p.invoke "a3".toList 0 (Store.empty.collect [p]) = some (.ok (.failure 0),
      (Store.empty.collect [p]).expect 0 "start" |>.expect 1 "one" |>.expect 1 "two"
        |>.expect 1 "one") :=
    Parser.invoke_eq_some_iff.2 ⟨8, rfl⟩
  have hparsed : (s₀.record 3 "elsewhere").parsed "a3".toList =
      some (.error (.noMatch (some ⟨1, ["one", "two"]⟩))) :=
    exists_of_map_fst.2 ((exists_use_iff rfl).2 (Reader.exists_parse_iff.2
      ⟨_, Reader.exists_parsePrefix_iff.2 ⟨_, _, hinvoke, rfl⟩, rfl⟩))
  obtain ⟨⟨hsame, -⟩, -, herased⟩ := diagnostics_are_additive hstart hreach "a3".toList
  obtain ⟨t₀, store', hstart', h⟩ := herased _ _ false (.inr ⟨rfl, rfl⟩)
  refine ⟨s₀, _, t₀, _, store', hstart, hreach, rfl, hsame.symm.trans hparsed, hstart', ?_⟩
  rw [(h t₀ .refl).1, hparsed]
  rfl

end Session

end Descent
