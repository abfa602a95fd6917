import Descent.Cli.Respond
import Descent.Proofs.Calc.Number

/-!
# Printed trees

The JSON text of a tree and its YAML text determine the tree, since each of them shows where it
ends: texts with more behind them are equal only if the trees are and what is behind them is
(`Expr.json_append_inj`, `Expr.yamlList_append_inj`). In JSON, brackets enclose a tree. In YAML,
what follows a list is indented less (`Dedents`).
-/

namespace Descent

/-! ## Numbers -/

namespace Text

/-- The text does not start with a digit. -/
def NoMoreDigits (text : List Char) : Prop := ∀ c ∈ text.head?, c.isDigit = false

theorem noMoreDigits_cons {c : Char} {text : List Char} (h : c.isDigit = false) :
    NoMoreDigits (c :: text) := by
  rintro _ ⟨⟩
  exact h

section
variable {rest rest' : List Char}

theorem digits_append_inj {m n : Nat} (hr : NoMoreDigits rest) (hr' : NoMoreDigits rest')
    (h : digits m ++ rest = digits n ++ rest') : m = n ∧ rest = rest' := by
  have hdigits : digits m = digits n := by
    rw [← Calc.takeWhile_append_stops (fun _ => isDigit_of_mem_digits) hr, h,
      Calc.takeWhile_append_stops (fun _ => isDigit_of_mem_digits) hr']
  rw [hdigits] at h
  exact ⟨digits_injective hdigits, List.append_cancel_left h⟩

/-- Digits do not start with a sign. -/
theorem digits_append_ne {n : Nat} {c : Char} (hc : c.isDigit = false) :
    digits n ++ rest ≠ c :: rest' := by
  cases hd : digits n with
  | nil => exact absurd hd Nat.toDigits_ne_nil
  | cons d ds =>
    have : d.isDigit = true := isDigit_of_mem_digits (n := n) (by simp [hd])
    rintro ⟨⟩
    rw [hc] at this
    cases this

/-- A numeral shows where it ends. -/
theorem decimal_append_inj {m n : Int} (hr : NoMoreDigits rest) (hr' : NoMoreDigits rest')
    (h : decimal m ++ rest = decimal n ++ rest') : m = n ∧ rest = rest' := by
  match m, n with
  | .ofNat m, .ofNat n =>
    obtain ⟨rfl, rfl⟩ := digits_append_inj hr hr' h
    exact ⟨rfl, rfl⟩
  | .negSucc m, .negSucc n =>
    obtain ⟨hmn, rfl⟩ := digits_append_inj hr hr' (List.cons.inj h).2
    obtain rfl := Nat.succ.inj hmn
    exact ⟨rfl, rfl⟩
  | .ofNat m, .negSucc n => exact absurd h (digits_append_ne rfl)
  | .negSucc m, .ofNat n => exact absurd h.symm (digits_append_ne rfl)

/-- A numeral starts with a digit or a minus sign. -/
theorem decimal_append_ne {n : Int} {c : Char} (hc : c.isDigit = false) (hminus : c ≠ '-') :
    decimal n ++ rest ≠ c :: rest' := by
  match n with
  | .ofNat n => exact digits_append_ne hc
  | .negSucc n => exact fun h => hminus (List.cons.inj h).1.symm

/-- What follows the minus sign of a numeral is a digit. -/
theorem decimal_append_ne_minus {n : Int} {c : Char} (hc : c.isDigit = false) :
    decimal n ++ rest ≠ '-' :: c :: rest' := by
  match n with
  | .ofNat n => exact digits_append_ne rfl
  | .negSucc n => exact fun h => digits_append_ne hc (List.cons.inj h).2

end

end Text

namespace Calc

open Text

/-! ## JSON -/

theorem Expr.json_mk (first : Atom) (rest : List (Operator × Atom)) :
    (Expr.mk first rest).json =
      '[' :: (first.toValue.json ++ Value.itemsJson (restValues rest)) := by
  rw [Expr.json, Expr.toValue, Value.json]

theorem Operator.json_toValue (op : Operator) : op.toValue.json = ['"', op.symbol, '"'] := by
  cases op <;> rfl

theorem itemsJson_restValues_cons (op : Operator) (a : Atom) (rest : List (Operator × Atom)) :
    Value.itemsJson (restValues ((op, a) :: rest)) = [',', '"', op.symbol, '"', ','] ++
      (a.toValue.json ++ Value.itemsJson (restValues rest)) := by
  rw [restValues, Value.itemsJson, Value.itemsJson, op.json_toValue]
  rfl

theorem noMoreDigits_itemsJson_append (rest : List (Operator × Atom)) (text : List Char) :
    NoMoreDigits (Value.itemsJson (restValues rest) ++ text) := by
  cases rest with
  | nil => exact noMoreDigits_cons rfl
  | cons pair rest => exact noMoreDigits_cons rfl

theorem Operator.symbol_injective {op op' : Operator} (h : op.symbol = op'.symbol) : op = op' := by
  cases op <;> cases op' <;> first | rfl | cases h

mutual

theorem Atom.json_append_inj : ∀ (a a' : Atom) {text text' : List Char}, NoMoreDigits text →
    NoMoreDigits text' → a.toValue.json ++ text = a'.toValue.json ++ text' →
    a = a' ∧ text = text'
  | .number m, .number n, text, text', ht, ht', h => by
    obtain ⟨rfl, rfl⟩ := decimal_append_inj ht ht' h
    exact ⟨rfl, rfl⟩
  | .group e, .group e', text, text', _, _, h => by
    obtain ⟨rfl, rfl⟩ := Expr.json_append_inj e e' h
    exact ⟨rfl, rfl⟩
  | .number m, .group (.mk first rest), text, text', _, _, h => by
    rw [Atom.toValue, Atom.toValue, ← Expr.json, Expr.json_mk] at h
    exact absurd h (decimal_append_ne rfl (by decide))
  | .group (.mk first rest), .number m, text, text', _, _, h => by
    rw [Atom.toValue, Atom.toValue, ← Expr.json, Expr.json_mk] at h
    exact absurd h.symm (decimal_append_ne rfl (by decide))

/-- A tree in brackets shows where it ends. -/
theorem Expr.json_append_inj : ∀ (e e' : Expr) {text text' : List Char},
    e.json ++ text = e'.json ++ text' → e = e' ∧ text = text'
  | .mk first rest, .mk first' rest', text, text', h => by
    simp only [Expr.json_mk, List.cons_append, List.cons.injEq, List.append_assoc, true_and] at h
    obtain ⟨rfl, hrest⟩ := Atom.json_append_inj first first'
      (noMoreDigits_itemsJson_append rest text) (noMoreDigits_itemsJson_append rest' text') h
    obtain ⟨rfl, rfl⟩ := restJson_append_inj rest rest' hrest
    exact ⟨rfl, rfl⟩

theorem restJson_append_inj : ∀ (rest rest' : List (Operator × Atom)) {text text' : List Char},
    Value.itemsJson (restValues rest) ++ text = Value.itemsJson (restValues rest') ++ text' →
    rest = rest' ∧ text = text'
  | [], [], text, text', h => ⟨rfl, (List.cons.inj h).2⟩
  | [], (op, a) :: rest, text, text', h => nomatch (List.cons.inj h).1
  | (op, a) :: rest, [], text, text', h => nomatch (List.cons.inj h).1
  | (op, a) :: rest, (op', a') :: rest', text, text', h => by
    simp only [itemsJson_restValues_cons, List.cons_append, List.nil_append, List.append_assoc,
      List.cons.injEq, true_and] at h
    obtain ⟨hop, h⟩ := h
    obtain rfl := Operator.symbol_injective hop
    obtain ⟨rfl, hrest⟩ := Atom.json_append_inj a a'
      (noMoreDigits_itemsJson_append rest text) (noMoreDigits_itemsJson_append rest' text') h
    obtain ⟨rfl, rfl⟩ := restJson_append_inj rest rest' hrest
    exact ⟨rfl, rfl⟩

end

/-! ## Indentation -/

/-- Blanks, and a dash behind them. -/
def indented (indent : Nat) (text : List Char) : List Char :=
  List.replicate indent ' ' ++ '-' :: text

/-- The text is empty, or its first line is an item that is indented less. -/
def Dedents (indent : Nat) (text : List Char) : Prop :=
  text = [] ∨ ∃ less < indent, ∃ rest, text = indented less rest

section
variable {indent indent' : Nat} {text text' : List Char}

/-- The dash shows where the indentation ends. -/
theorem indented_inj (h : indented indent text = indented indent' text') :
    indent = indent' ∧ text = text' := by
  induction indent generalizing indent' with
  | zero =>
    cases indent' with
    | zero => exact ⟨rfl, (List.cons.inj h).2⟩
    | succ indent' => exact nomatch (List.cons.inj h).1
  | succ indent ih =>
    cases indent' with
    | zero => exact nomatch (List.cons.inj h).1
    | succ indent' =>
      obtain ⟨rfl, rfl⟩ := ih (List.cons.inj h).2
      exact ⟨rfl, rfl⟩

theorem Dedents.mono (h : Dedents indent text) (hle : indent ≤ indent') :
    Dedents indent' text := by
  rcases h with rfl | ⟨less, hlt, rest, rfl⟩
  · exact .inl rfl
  · exact .inr ⟨less, Nat.lt_of_lt_of_le hlt hle, rest, rfl⟩

/-- No item of a list follows it. -/
theorem Dedents.ne_indented (h : Dedents indent text) : text ≠ indented indent text' := by
  rcases h with rfl | ⟨less, hlt, rest, rfl⟩
  · cases indent <;> exact nofun
  · intro heq
    obtain ⟨rfl, -⟩ := indented_inj heq
    exact Nat.lt_irrefl _ hlt

end

/-! ## YAML -/

/-- The line of an operator in a list, behind its dash. -/
def operatorLine (op : Operator) (text : List Char) : List Char :=
  ' ' :: (op.yaml ++ '\n' :: text)

section
variable {indent : Nat} {text text' : List Char}

theorem yamlRest_append_cons (indent : Nat) (op : Operator) (a : Atom)
    (rest : List (Operator × Atom)) (text : List Char) :
    yamlRest indent ((op, a) :: rest) ++ text = indented indent (operatorLine op
      (List.replicate indent ' ' ++ (a.yamlItem indent ++ (yamlRest indent rest ++ text)))) := by
  simp [yamlRest, indented, operatorLine]

theorem Expr.yamlList_append (indent : Nat) (first : Atom) (rest : List (Operator × Atom))
    (text : List Char) : (Expr.mk first rest).yamlList indent ++ text =
      first.yamlItem indent ++ (yamlRest indent rest ++ text) := by
  rw [Expr.yamlList, List.append_assoc]

theorem Atom.yamlItem_number_append (indent : Nat) (n : Int) (text : List Char) :
    (Atom.number n).yamlItem indent ++ text = '-' :: ' ' :: (decimal n ++ '\n' :: text) := by
  simp [Atom.yamlItem]

theorem Atom.yamlItem_group_append (indent : Nat) (e : Expr) (text : List Char) :
    (Atom.group e).yamlItem indent ++ text =
      '-' :: ' ' :: (e.yamlList (indent + 2) ++ text) := by
  simp [Atom.yamlItem]

/-- A list starts with the dash of its first item. -/
theorem Expr.exists_yamlList_append (indent : Nat) (text : List Char) :
    ∀ e : Expr, ∃ rest, e.yamlList indent ++ text = '-' :: ' ' :: rest
  | .mk (.number n) rest => by
    rw [Expr.yamlList_append, Atom.yamlItem_number_append]
    exact ⟨_, rfl⟩
  | .mk (.group e) rest => by
    rw [Expr.yamlList_append, Atom.yamlItem_group_append]
    exact ⟨_, rfl⟩

theorem operatorLine_inj {op op' : Operator} (h : operatorLine op text = operatorLine op' text') :
    op = op' ∧ text = text' := by
  cases op <;> cases op' <;> simp_all [operatorLine, Operator.yaml]

/-- What follows an item is indented no more than the item. -/
theorem dedents_yamlRest_append (h : Dedents indent text) (rest : List (Operator × Atom)) :
    Dedents (indent + 1) (yamlRest indent rest ++ text) := by
  cases rest with
  | nil => exact h.mono (Nat.le_succ _)
  | cons pair rest =>
    rw [yamlRest_append_cons]
    exact .inr ⟨indent, Nat.lt_succ_self _, _, rfl⟩

end

mutual

theorem Atom.yamlItem_append_inj : ∀ (a a' : Atom) {indent : Nat} {text text' : List Char},
    Dedents (indent + 1) text → Dedents (indent + 1) text' →
    a.yamlItem indent ++ text = a'.yamlItem indent ++ text' → a = a' ∧ text = text'
  | .number m, .number n, indent, text, text', _, _, h => by
    simp only [Atom.yamlItem_number_append, List.cons.injEq, true_and] at h
    obtain ⟨rfl, hline⟩ := decimal_append_inj (noMoreDigits_cons rfl) (noMoreDigits_cons rfl) h
    exact ⟨rfl, (List.cons.inj hline).2⟩
  | .group e, .group e', indent, text, text', ht, ht', h => by
    simp only [Atom.yamlItem_group_append, List.cons.injEq, true_and] at h
    obtain ⟨rfl, rfl⟩ := Expr.yamlList_append_inj e e' (ht.mono (Nat.le_succ _))
      (ht'.mono (Nat.le_succ _)) h
    exact ⟨rfl, rfl⟩
  -- The dash of a list has a blank behind it, and the minus sign of a number a digit.
  | .number m, .group e, indent, text, text', _, _, h => by
    obtain ⟨rest, hrest⟩ := e.exists_yamlList_append (indent + 2) text'
    simp only [Atom.yamlItem_number_append, Atom.yamlItem_group_append, hrest, List.cons.injEq,
      true_and] at h
    exact absurd h (decimal_append_ne_minus rfl)
  | .group e, .number m, indent, text, text', _, _, h => by
    obtain ⟨rest, hrest⟩ := e.exists_yamlList_append (indent + 2) text
    simp only [Atom.yamlItem_number_append, Atom.yamlItem_group_append, hrest, List.cons.injEq,
      true_and] at h
    exact absurd h.symm (decimal_append_ne_minus rfl)

/-- A list shows where it ends, if what follows is indented less. -/
theorem Expr.yamlList_append_inj : ∀ (e e' : Expr) {indent : Nat} {text text' : List Char},
    Dedents indent text → Dedents indent text' →
    e.yamlList indent ++ text = e'.yamlList indent ++ text' → e = e' ∧ text = text'
  | .mk first rest, .mk first' rest', indent, text, text', ht, ht', h => by
    rw [Expr.yamlList_append, Expr.yamlList_append] at h
    obtain ⟨rfl, hrest⟩ := Atom.yamlItem_append_inj first first'
      (dedents_yamlRest_append ht rest) (dedents_yamlRest_append ht' rest') h
    obtain ⟨rfl, rfl⟩ := yamlRest_append_inj rest rest' ht ht' hrest
    exact ⟨rfl, rfl⟩

theorem yamlRest_append_inj : ∀ (rest rest' : List (Operator × Atom)) {indent : Nat}
    {text text' : List Char}, Dedents indent text → Dedents indent text' →
    yamlRest indent rest ++ text = yamlRest indent rest' ++ text' → rest = rest' ∧ text = text'
  | [], [], indent, text, text', _, _, h => ⟨rfl, h⟩
  | [], (op, a) :: rest, indent, text, text', ht, _, h => by
    rw [yamlRest_append_cons] at h
    exact absurd h ht.ne_indented
  | (op, a) :: rest, [], indent, text, text', _, ht', h => by
    rw [yamlRest_append_cons] at h
    exact absurd h.symm ht'.ne_indented
  | (op, a) :: rest, (op', a') :: rest', indent, text, text', ht, ht', h => by
    rw [yamlRest_append_cons, yamlRest_append_cons] at h
    obtain ⟨rfl, hitem⟩ := operatorLine_inj (indented_inj h).2
    obtain ⟨rfl, hrest⟩ := Atom.yamlItem_append_inj a a' (dedents_yamlRest_append ht rest)
      (dedents_yamlRest_append ht' rest') (List.append_cancel_left hitem)
    obtain ⟨rfl, rfl⟩ := yamlRest_append_inj rest rest' ht ht' hrest
    exact ⟨rfl, rfl⟩

end

/-! ## Ends of texts -/

/-- The text is one line or more, the last of which ends with a digit. -/
def EndsInDigit (text : List Char) : Prop :=
  ∃ front d, text = front ++ [d, '\n'] ∧ d.isDigit = true

theorem EndsInDigit.append {text : List Char} (h : EndsInDigit text) (front : List Char) :
    EndsInDigit (front ++ text) := by
  obtain ⟨front', d, rfl, hd⟩ := h
  exact ⟨front ++ front', d, by simp, hd⟩

theorem endsInDigit_decimal (n : Int) : EndsInDigit (decimal n ++ ['\n']) := by
  have hdigits : ∀ n : Nat, EndsInDigit (digits n ++ ['\n']) := by
    intro n
    rcases List.eq_nil_or_concat (digits n) with h | ⟨front, d, h⟩
    · exact absurd h Nat.toDigits_ne_nil
    · exact ⟨front, d, by simp [h], isDigit_of_mem_digits (n := n) (by simp [h])⟩
  match n with
  | .ofNat n => exact hdigits n
  | .negSucc n => exact (hdigits (n + 1)).append ['-']

mutual

theorem Atom.endsInDigit_yamlItem : ∀ (a : Atom) (indent : Nat), EndsInDigit (a.yamlItem indent)
  | .number n, indent => by
    rw [Atom.yamlItem, List.append_assoc]
    exact (endsInDigit_decimal n).append _
  | .group e, indent => (Expr.endsInDigit_yamlList e _).append _

theorem Expr.endsInDigit_yamlList : ∀ (e : Expr) (indent : Nat), EndsInDigit (e.yamlList indent)
  | .mk first rest, indent => by
    rw [Expr.yamlList]
    rcases endsInDigit_yamlRest rest indent with rfl | hrest
    · rw [yamlRest, List.append_nil]
      exact Atom.endsInDigit_yamlItem first indent
    · exact hrest.append _

theorem endsInDigit_yamlRest : ∀ (rest : List (Operator × Atom)) (indent : Nat),
    rest = [] ∨ EndsInDigit (yamlRest indent rest)
  | [], _ => .inl rfl
  | (op, a) :: rest, indent => by
    rw [yamlRest]
    rcases endsInDigit_yamlRest rest indent with rfl | hrest
    · rw [yamlRest, List.append_nil]
      exact .inr ((Atom.endsInDigit_yamlItem a indent).append _)
    · exact .inr (hrest.append _)

end

theorem contains_whiteSpace_of_isDigit {c : Char} (h : c.isDigit = true) :
    Unicode.whiteSpace.contains c = false := by
  have hall : ∀ d < 10, Unicode.whiteSpace.contains (Nat.digitChar d) = false := by decide +kernel
  obtain ⟨d, hd, rfl, -⟩ := exists_digitChar h
  exact hall d hd

theorem trimEnd_append_singleton {front : List Char} {c : Char}
    (h : Unicode.whiteSpace.contains c = false) : Cli.trimEnd (front ++ [c]) = front ++ [c] := by
  simp [Cli.trimEnd, h]

/-- Trimming takes the last line end off, and no more. -/
theorem EndsInDigit.trimEnd {text : List Char} (h : EndsInDigit text) :
    Cli.trimEnd text ++ ['\n'] = text := by
  obtain ⟨front, d, rfl, hd⟩ := h
  have hline : Unicode.whiteSpace.contains '\n' = true := by decide +kernel
  simp [Cli.trimEnd, hline, contains_whiteSpace_of_isDigit hd]

theorem exists_itemsJson_append (rest : List (Operator × Atom)) :
    ∃ front, Value.itemsJson (restValues rest) = front ++ [']'] := by
  induction rest with
  | nil => exact ⟨[], rfl⟩
  | cons pair rest ih =>
    obtain ⟨op, a⟩ := pair
    obtain ⟨front, h⟩ := ih
    rw [itemsJson_restValues_cons, h]
    exact ⟨[',', '"', op.symbol, '"', ','] ++ (a.toValue.json ++ front), by simp⟩

theorem Expr.trimEnd_json (e : Expr) : Cli.trimEnd e.json = e.json := by
  obtain ⟨first, rest⟩ := e
  obtain ⟨front, h⟩ := exists_itemsJson_append rest
  have hjson : (Expr.mk first rest).json = ('[' :: (first.toValue.json ++ front)) ++ [']'] := by
    rw [Expr.json_mk, h]
    simp
  rw [hjson]
  exact trimEnd_append_singleton (by decide +kernel)

/-! ## Trees and their texts -/

theorem Expr.json_injective : Function.Injective Expr.json := by
  intro e e' h
  exact (Expr.json_append_inj e e' (congrArg (· ++ []) h)).1

theorem Expr.yaml_injective : Function.Injective Expr.yaml := by
  intro e e' h
  exact (Expr.yamlList_append_inj e e' (.inl rfl) (.inl rfl) (congrArg (· ++ []) h)).1

theorem Expr.trimEnd_yaml_append (e : Expr) : Cli.trimEnd e.yaml ++ ['\n'] = e.yaml :=
  (e.endsInDigit_yamlList 0).trimEnd

theorem Expr.trimEnd_yaml_injective {e e' : Expr} (h : Cli.trimEnd e.yaml = Cli.trimEnd e'.yaml) :
    e = e' := by
  apply Expr.yaml_injective
  rw [← e.trimEnd_yaml_append, h, e'.trimEnd_yaml_append]

/-- Trees are told apart by their JSON texts and by their YAML texts, and by what the command line
prints of either, where blanks and line ends behind the text are left out. -/
theorem Expr.printed_iff (e e' : Expr) :
    (e.json = e'.json ↔ e = e') ∧ (e.yaml = e'.yaml ↔ e = e') ∧
      ((Cli.render .json e).map Cli.trimEnd = (Cli.render .json e').map Cli.trimEnd ↔ e = e') ∧
      ((Cli.render .yaml e).map Cli.trimEnd = (Cli.render .yaml e').map Cli.trimEnd ↔ e = e') := by
  refine ⟨Expr.json_injective.eq_iff, Expr.yaml_injective.eq_iff, ⟨fun h => ?_, ?_⟩,
    ⟨fun h => ?_, ?_⟩⟩
  · have hjson : Cli.trimEnd e.json = Cli.trimEnd e'.json := Except.ok.inj h
    rw [e.trimEnd_json, e'.trimEnd_json] at hjson
    exact Expr.json_injective hjson
  · rintro rfl
    rfl
  · exact Expr.trimEnd_yaml_injective (Except.ok.inj h)
  · rintro rfl
    rfl

-- A lone group shows in a bracket or a dash only, next to the sign of a number.
example : (Expr.mk (.group (.mk (.number (-1)) [])) []).json = "[[-1]]".toList ∧
    (Expr.mk (.group (.mk (.number (-1)) [])) []).yaml = "- - -1\n".toList := ⟨rfl, rfl⟩

end Calc

end Descent
