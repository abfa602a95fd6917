import Descent.Proofs.Meaning.Calls
import Descent.Proofs.Meaning.Matches

/-!
# Values spell what was read

Where functions of values keep their text, a value is made of the input and of nothing else
(`Session.invoke_spells`): the characters in it, in order, are the part of the input between the
position and the position that is reported. This holds of refused matches too, which show their
value; what has been read in vain leaves nothing behind.
-/

namespace Descent

/-! ## Parts of the input -/

/-- The text stands in the input from the position up to `next`. -/
def Text.Slice (input : List Char) (position next : Nat) (text : List Char) : Prop :=
  ∃ front rest, input = front ++ text ++ rest ∧ byteLength front = position ∧
    byteLength (front ++ text) = next

namespace Text

variable {input text text' rest : List Char} {position next last : Nat}

theorem At.slice (h : At input position (text ++ rest)) :
    Slice input position (position + byteLength text) text := by
  obtain ⟨front, rfl, rfl⟩ := h
  exact ⟨front, rest, (List.append_assoc ..).symm, rfl, byteLength_append _ _⟩

theorem Slice.refl (h : isBoundary input position = true) : Slice input position position [] := by
  obtain ⟨rest, hat⟩ := isBoundary_iff.1 h
  exact @At.slice input [] rest position hat

theorem Slice.boundary (h : Slice input position next text) : isBoundary input next = true := by
  obtain ⟨front, rest, hi, -, hn⟩ := h
  exact At.isBoundary ⟨front ++ text, hi, hn⟩

/-- What stands behind a text stands behind it in the input. -/
theorem Slice.append (h : Slice input position next text) (h' : Slice input next last text') :
    Slice input position last (text ++ text') := by
  obtain ⟨front, rest, hi, hp, hn⟩ := h
  obtain ⟨front', rest', hi', hn', hl⟩ := h'
  have hat : At input next rest := ⟨front ++ text, hi, hn⟩
  have hat' : At input next (text' ++ rest') := ⟨front', by rw [hi', List.append_assoc], hn'⟩
  have hrest := hat.unique hat'
  refine ⟨front, rest', by rw [hi, hrest]; simp only [List.append_assoc], hp, ?_⟩
  rw [← List.append_assoc, byteLength_append, hn, ← hl, byteLength_append, hn']

end Text

/-! ## Keeping the text -/

/-- The definition may match with the value. -/
def Closure.Yields (rules : Rules) (c : Closure) (v : Value) : Prop :=
  ∃ input position next, Matches rules input c position v next

/-- The definition is no function of input and position, and if it is a function of the values that
its body matches with, it keeps their text. -/
structure Closure.KeepsText (rules : Rules) (c : Closure) : Prop where
  custom : ∀ answer, c.grammar ≠ .custom answer
  transform : ∀ f g v, c.grammar = .transform f g → (c.inner g).Yields rules v →
    (f v).text = v.text
  tryTransform : ∀ f g v w, c.grammar = .tryTransform f g → (c.inner g).Yields rules v →
    f v = some w → w.text = v.text

/-- The definition is no function of input and position, and if it is a function of values, it keeps
the text of every value. -/
def Grammar.KeepsText : Grammar → Prop
  | custom _ => False
  | transform f _ => ∀ v, (f v).text = v.text
  | tryTransform f _ => ∀ v w, f v = some w → w.text = v.text
  | _ => True

theorem Grammar.KeepsText.closure {rules : Rules} {c : Closure} (h : c.grammar.KeepsText) :
    c.KeepsText rules where
  custom := fun answer hg => by rw [hg] at h; exact h
  transform := fun f g v hg _ => by rw [hg] at h; exact h v
  tryTransform := fun f g v w hg _ hv => by rw [hg] at h; exact h v w hv

namespace Value

@[simp] theorem text_str (s : String) : (str s).text = s.toList := rfl

@[simp] theorem text_ofChars (cs : List Char) : (ofChars cs).text = cs := by
  simp [ofChars]

@[simp] theorem text_arr_nil : (arr []).text = [] := rfl

@[simp] theorem text_arr_cons (v : Value) (vs : List Value) :
    (arr (v :: vs)).text = v.text ++ (arr vs).text := rfl

@[simp] theorem text_ofOption_none : (ofOption none).text = [] := rfl

@[simp] theorem text_ofOption_some (v : Value) : (ofOption (some v)).text = v.text :=
  List.append_nil _

end Value

/-! ## What is derived -/

/-- The values that the step carries spell what was read from the position on. -/
def Step.Spells (input : List Char) (position : Nat) (step : Step) : Prop :=
  ∀ o v, step = .ok o → o.value? = some v → Text.Slice input position o.next v.text

/-- All values of the step are lists. -/
def Step.Lists (step : Step) : Prop :=
  ∀ o v, step = .ok o → o.value? = some v → ∃ vs, o = .success (.arr vs) o.next

/-- Parts and iterations answer with lists, which a definition need not. -/
def Task.Listed (step : Step) : Task → Prop
  | .parts _ | .iterations _ => step.Lists
  | .whole _ | .alternatives _ => True

section
variable {rules : Rules} {input : List Char} {position : Nat}

theorem Step.spells_of_error (error : GrammarError) : Step.Spells input position (.error error) :=
  fun _ _ h _ => nomatch h

theorem Step.spells_ok_iff {o : Outcome Value} :
    Step.Spells input position (.ok o) ↔
      ∀ v, o.value? = some v → Text.Slice input position o.next v.text :=
  ⟨fun h v hv => h o v rfl hv, fun h _ v ho hv => by cases ho; exact h v hv⟩

/-- No values spell nothing. -/
theorem Step.spells_nil (hp : Text.isBoundary input position = true) :
    Step.Spells input position (.ok (.success (.arr []) position)) ∧
      Step.Lists (.ok (.success (.arr []) position)) := by
  refine ⟨?spells, ?lists⟩
  case spells =>
    rintro o v ⟨⟩ ⟨⟩
    exact .refl hp
  case lists =>
    rintro o v ⟨⟩ -
    exact ⟨[], rfl⟩

theorem Step.Lists.cons {step : Step} (h : step.Lists) (v : Value) : (step.cons v).Lists := by
  unfold Step.cons
  split
  · rintro o w ⟨⟩ -
    exact ⟨_, rfl⟩
  · exact h

/-- A value in front of those of a list is read in front of them. -/
theorem Step.Spells.cons {step : Step} {v : Value} {next : Nat} (hl : step.Lists)
    (hv : Text.Slice input position next v.text) (h : step.Spells input next) :
    (step.cons v).Spells input position := by
  unfold Step.cons
  split
  · rename_i vs last
    rintro o w ⟨⟩ ⟨⟩
    exact hv.append (h _ _ rfl rfl)
  · rename_i hne
    intro o w ho hw
    obtain ⟨vs, hvs⟩ := hl o w ho hw
    exact absurd (ho.trans (congrArg Except.ok hvs)) (hne vs o.next)

theorem Recognizes.spells {g : Grammar} {step : Step} (h : Recognizes input position g step)
    (hg : ∀ answer, g ≠ .custom answer) : step.Spells input position := by
  cases h with
  | literal hat =>
    rintro o v ⟨⟩ ⟨⟩
    exact hat.slice
  | @charClass set negate c rest hat _ =>
    rintro o v ⟨⟩ ⟨⟩
    have hat : Text.At input position ([c] ++ rest) := hat
    simpa [Outcome.next] using hat.slice
  | pattern _ hat _ =>
    rintro o v ⟨⟩ ⟨⟩
    simpa [Outcome.next] using hat.slice
  | literal_fails _ | charClass_fails _ | pattern_fails _ _ => rintro o v ⟨⟩ ⟨⟩
  | custom => exact absurd rfl (hg _)

/-- A combinator that keeps the text of values spells what its body spells. -/
theorem Reshapes.spells {c : Closure} {body : Grammar} {o o' : Outcome Value}
    {failures : List Failure} (h : Reshapes position c.grammar body o o')
    (hk : c.KeepsText rules) (hp : Text.isBoundary input position = true)
    (hd : Derives rules input (.whole (c.inner body)) position (.ok o) failures)
    (ho : Step.Spells input position (.ok o)) : Step.Spells input position (.ok o') := by
  rw [Step.spells_ok_iff] at ho ⊢
  have yields : ∀ v next, o = .success v next → (c.inner body).Yields rules v :=
    fun v next h => ⟨input, position, next, failures, h ▸ hd⟩
  obtain ⟨g, d, ρ⟩ := c
  cases h with
  | optional_match =>
    rintro w ⟨⟩
    simpa [Outcome.next] using ho _ rfl
  | optional_none _ =>
    rintro w ⟨⟩
    simpa [Outcome.next] using Text.Slice.refl hp
  | transform_match =>
    rintro w ⟨⟩
    rw [hk.transform _ _ _ rfl (yields _ _ rfl)]
    exact ho _ rfl
  | tryTransform_match hf =>
    rintro w ⟨⟩
    rw [hk.tryTransform _ _ _ _ rfl (yields _ _ rfl) hf]
    exact ho _ rfl
  | tag_accepts _ | guarded_accepts _ | tag_fails _ | guarded_fails _ => exact ho
  | tag_rejects _ =>
    rintro w ⟨⟩
    exact ho _ rfl
  | transform_fails _ | tryTransform_none _ | tryTransform_fails _ | guarded_rejects _ =>
    rintro w ⟨⟩

/-- What is derived spells what was read. -/
theorem Derives.spells {task : Task} {step : Step} {failures : List Failure}
    (h : Derives rules input task position step failures)
    (hk : ∀ c ∈ task.closures, c.Always rules (Closure.KeepsText rules))
    (hp : Text.isBoundary input position = true) :
    step.Spells input position ∧ task.Listed step := by
  induction h with
  | recognizes h => exact ⟨h.spells (hk _ List.mem_cons_self).here.custom, trivial⟩
  | means hm _ ih =>
    have hk := (hk _ List.mem_cons_self).calls (.means hm)
    exact ⟨(ih (List.forall_mem_singleton.2 hk) hp).1, trivial⟩
  | dangles _ => exact ⟨Step.spells_of_error _, trivial⟩
  | reshapes hr hd ih =>
    have hk := hk _ List.mem_cons_self
    have ho := (ih (List.forall_mem_singleton.2 (hk.body hr.body?_eq)) hp).1
    exact ⟨hr.spells hk.here hp hd ho, trivial⟩
  | labelled_match hg _ _ ih | labelled_fails hg _ _ ih =>
    have hk := (hk _ List.mem_cons_self).body (by rw [hg]; rfl)
    exact ⟨(ih (List.forall_mem_singleton.2 hk) hp).1, trivial⟩
  | body_error hb _ ih => exact ⟨Step.spells_of_error _, trivial⟩
  | sequence hg _ ih | choice hg _ ih =>
    have hk := (hk _ List.mem_cons_self).all (congrArg Grammar.parts hg)
    exact ⟨(ih hk hp).1, trivial⟩
  | many hg _ ih =>
    have hk := (hk _ List.mem_cons_self).all (congrArg Grammar.parts hg)
    exact ⟨(ih hk hp).1, trivial⟩
  | parts_nil => exact Step.spells_nil hp
  | parts_cons _ _ ih ih' =>
    obtain ⟨hk, hks⟩ := List.forall_mem_cons.1 hk
    have hv := (ih (List.forall_mem_singleton.2 hk) hp).1 _ _ rfl rfl
    -- the list of the other parts spells what comes behind the value of the first
    obtain ⟨hs, hl⟩ := ih' hks hv.boundary
    exact ⟨hs.cons hl hv, hl.cons _⟩
  | alternatives_match _ _ ih | alternatives_error _ ih =>
    exact ⟨(ih (List.forall_mem_singleton.2 (List.forall_mem_cons.1 hk).1) hp).1, trivial⟩
  | alternatives_next _ _ _ _ ih' =>
    exact ⟨(ih' (List.forall_mem_cons.1 hk).2 hp).1, trivial⟩
  | alternatives_nil =>
    refine ⟨?_, trivial⟩
    rintro o v ⟨⟩ ⟨⟩
  | iterations_stop _ _ _ => exact Step.spells_nil hp
  | iterations_next _ _ _ ih ih' =>
    have hv := (ih hk hp).1 _ _ rfl rfl
    obtain ⟨hs, hl⟩ := ih' hk hv.boundary
    exact ⟨hs.cons hl hv, hl.cons _⟩
  | parts_fails _ _ _ =>
    refine ⟨?_, ?_⟩ <;> rintro o v ⟨⟩ ⟨⟩
  | parts_error _ _ | iterations_stall _ _ | iterations_error _ _ =>
    exact ⟨Step.spells_of_error _, fun _ _ h _ => nomatch h⟩

end

/-! ## Sessions -/

namespace Session

/-- However a session has been used, if all functions of values that the grammar comes to keep the
text of the values they are given, then a value that is answered at a boundary spells the input from
there up to the position that is reported. -/
theorem invoke_spells {rules : Rules} {grammar : Grammar} {options : ReaderOptions}
    {tracked : Bool} {s₀ s s' : Session} {store : Store} {input : List Char} {position : Nat}
    {o : Outcome Value} {v : Value}
    (hkeeps : (grammar.closed rules).Always rules (Closure.KeepsText rules))
    (hstart : start rules grammar options tracked = (.ok s₀, store)) (hreach : Reaches s₀ s)
    (hp : Text.isBoundary input position = true)
    (hs : s.invoke input position = some (.ok o, s')) (hv : o.value? = some v) :
    Text.Slice input position o.next v.text := by
  obtain ⟨failures, hd, -⟩ := ((sound_start hstart).reaches hreach).exists_derives hs
  exact (hd.spells (List.forall_mem_singleton.2 hkeeps) hp).1 o v rfl hv

/-- Lists in parentheses of one letter and maybe another, joined, where short ones are wanted. -/
def shortList : Grammar :=
  .tag (fun v => v.length < 3)
    (.recursive "list" false false
      (.choice [.sequence [.literal "(", .many (.var "list"), .literal ")"],
        .transform (fun v => .ofChars v.text)
          (.sequence [.charClass "ab" false, .optional (.literal "c")])]))

/-- A list that is refused for its length spells the whole of it. -/
theorem invoke_spells_shortList :
    ∃ s v s', ((shortList.closed []).Always [] (Closure.KeepsText [])) ∧
      (start [] shortList {} true).1 = .ok s ∧
      s.invoke "x(ac(b))".toList 1 = some (.ok (.rejected v 8), s') ∧
      Text.Slice "x(ac(b))".toList 1 8 v.text := by
  have hevery : (shortList.closed []).Every Grammar.KeepsText :=
    .mk (by simp [shortList, Grammar.Every, Grammar.EveryOne, Grammar.KeepsText])
      (List.forall_mem_nil _)
  have hrules : ∀ a ∈ ([] : Rules), a.2.Every Grammar.KeepsText := List.forall_mem_nil _
  have hkeeps : (shortList.closed []).Always [] (Closure.KeepsText []) :=
    fun c hc => (hevery.always hrules c hc).closure
  let built := shortList.build [] [] Store.empty
  let parser : Parser := .tag (fun v => v.length < 3) (.rule 0)
  let s := settle ⟨some { parser := parser, tracked := true }, built.2⟩ built.2
  have hstart : start [] shortList {} true = (.ok s, _) := rfl
  obtain ⟨v, s', hs⟩ :
      ∃ v s', s.invoke "x(ac(b))".toList 1 = some (.ok (.rejected v 8), s') :=
    ⟨_, _, @invoke_of_run s _ _ _ 30 _ _ rfl rfl⟩
  exact ⟨s, v, s', hkeeps, rfl, hs, invoke_spells hkeeps hstart .refl (by decide) hs rfl⟩

end Session

end Descent
