import Questionnaire.Proofs.Relevance.Formula

/-!
# Rules for functions

The rules look at six tokens in a row and know neither nesting nor precedence. The four rules that
replace functions still turn every formula into a formula of the same truth value, wherever it
stands: a function with its parentheses is an operand, and so is what replaces it.

Main definitions:

* `Rule.TurnsOperand`, `Rule.TurnsFormula`: a rule in front of any other tokens.
* `Rule.Keeps`: a rule that keeps the truth value of every formula.

Results:

* `IsFunctionRule.turnsFormula`: a rule for a function keeps the alternatives of a formula, if it
  keeps atoms and negations.
* `reduceAll_sugarRules_keeps`: the four rules together.
-/

namespace Questionnaire.Relevance

/-! ## Applying a rule -/

namespace Rule

/-- The rule replaces nothing that begins with the token. -/
def Silent (rule : Rule) (token : Token) : Prop := ∀ b c d e f, rule token b c d e f = none

theorem apply_nil (rule : Rule) : rule.apply [] = [] := by rw [Rule.apply]

theorem apply_of_some {rule : Rule} {a b c d e f : Token} {replacement : List Token}
    (h : rule a b c d e f = some replacement) (rest : List Token) :
    rule.apply (a :: b :: c :: d :: e :: f :: rest) = replacement ++ rule.apply rest := by
  rw [Rule.apply, h]

theorem apply_cons_of_none {rule : Rule} {a : Token} {rest : List Token}
    (h : ∀ b c d e f others, rest = b :: c :: d :: e :: f :: others → rule a b c d e f = none) :
    rule.apply (a :: rest) = a :: rule.apply rest := by
  match rest with
  | [] | [_] | [_, _] | [_, _, _] | [_, _, _, _] => simp [Rule.apply]
  | b :: c :: d :: e :: f :: others => rw [Rule.apply, h b c d e f others rfl]

theorem apply_cons_of_silent {rule : Rule} {token : Token} (h : rule.Silent token)
    (rest : List Token) : rule.apply (token :: rest) = token :: rule.apply rest :=
  apply_cons_of_none fun b c d e f _ _ => h b c d e f

theorem apply_append_of_silent {rule : Rule} {front : List Token}
    (h : ∀ token ∈ front, rule.Silent token) (rest : List Token) :
    rule.apply (front ++ rest) = front ++ rule.apply rest := by
  induction front with
  | nil => rfl
  | cons token front ih =>
    rw [List.cons_append, apply_cons_of_silent (h token List.mem_cons_self),
      ih fun other hm => h other (List.mem_cons_of_mem _ hm), List.cons_append]

/-- The rule leaves another operand where the first one stands. -/
def TurnsOperand (rule : Rule) (o p : Operand) : Prop :=
  ∀ rest, rule.apply (o.tokens ++ rest) = p.tokens ++ rule.apply rest

/-- The rule leaves another formula where the first one stands, if no connective goes on. -/
def TurnsFormula (rule : Rule) (f g : Formula) : Prop :=
  ∀ rest, beginsWithConnective rest = false →
    rule.apply (f.tokens ++ rest) = g.tokens ++ rule.apply rest

/-- The rule keeps the truth value of every atom. -/
def KeepsAtoms (rule : Rule) : Prop :=
  ∀ a, ∃ p, rule.TurnsOperand (.atom a) p ∧ ∀ facts, p.value facts = a.value facts

/-- The rule keeps the truth value of a negation, if it keeps that of the negated formula. -/
def KeepsNegations (rule : Rule) : Prop :=
  ∀ f g, rule.TurnsFormula f g → (∀ facts, g.value facts = f.value facts) →
    ∃ p, rule.TurnsOperand (.negated f) p ∧ ∀ facts, p.value facts = !f.value facts

/-- The rule turns every formula into a formula of the same truth value. -/
def Keeps (rule : Rule) : Prop :=
  ∀ f : Formula, ∃ g : Formula, rule.apply f.tokens = g.tokens ∧
    ∀ facts, g.value facts = f.value facts

end Rule

open Rule

/-! ## Functions -/

/-- The rule replaces only what begins with the name of the function, in any letter case. -/
def IsFunctionRule (rule : Rule) (name : String) : Prop :=
  ∀ a b c d e f, rule a b c d e f = none ∨
    ∃ word, a = .word word ∧ Text.sameIgnoringCase word name = true

theorem IsFunctionRule.silent_word {rule : Rule} {name : String} (hrule : IsFunctionRule rule name)
    {word : String} (hword : Text.sameIgnoringCase word name = false) :
    rule.Silent (.word word) := by
  intro b c d e f
  obtain hnone | ⟨other, heq, hother⟩ := hrule (.word word) b c d e f
  · exact hnone
  · obtain rfl := Token.word.inj heq
    rw [hword] at hother
    cases hother

theorem IsFunctionRule.silent_other {rule : Rule} {name : String}
    (hrule : IsFunctionRule rule name) {token : Token} (htoken : ∀ word, token ≠ .word word) :
    rule.Silent token := by
  intro b c d e f
  obtain hnone | ⟨word, heq, -⟩ := hrule token b c d e f
  · exact hnone
  · exact absurd heq (htoken word)

/-- The name of the function that an atom is written with. -/
def Atom.function? : Atom → Option String
  | .selected _ _ => some "selected"
  | .countSelected _ _ => some "count-selected"
  | .stringLength _ _ => some "string-length"
  | _ => none

/-- Atoms that are not written with the function stay. -/
theorem IsFunctionRule.turns_atom {rule : Rule} {name : String} (hrule : IsFunctionRule rule name)
    {a : Atom} (ha : ∀ function, a.function? = some function →
      Text.sameIgnoringCase function name = false) :
    rule.TurnsOperand (.atom a) (.atom a) := by
  refine fun rest => apply_append_of_silent (fun token hm => ?_) rest
  by_cases hword : ∃ word, token = .word word
  · obtain ⟨word, rfl⟩ := hword
    refine hrule.silent_word (ha word ?_)
    cases a <;> simp_all [Operand.tokens, Atom.tokens, Atom.function?]
  · exact hrule.silent_other fun word h => hword ⟨word, h⟩

mutual

/-- A rule for a function keeps the truth value of every operand, if it does so for atoms and for
negations. -/
theorem IsFunctionRule.turnsOperand {rule : Rule} {name : String}
    (hrule : IsFunctionRule rule name)
    (hatom : rule.KeepsAtoms) (hnegated : rule.KeepsNegations) :
    ∀ o : Operand, ∃ p, rule.TurnsOperand o p ∧ ∀ facts, p.value facts = o.value facts
  | .atom a => hatom a
  | .negated f => by
    obtain ⟨g, hturns, hvalue⟩ := IsFunctionRule.turnsFormula hrule hatom hnegated f
    exact hnegated f g hturns fun facts => by rw [Formula.value, Formula.value, hvalue facts]
  | .grouped f => by
    obtain ⟨g, hturns, hvalue⟩ := IsFunctionRule.turnsFormula hrule hatom hnegated f
    refine ⟨.grouped g, fun rest => ?_, fun facts => by
      rw [Operand.value, Operand.value, hvalue facts]⟩
    have hopen : rule.Silent .openParen := hrule.silent_other nofun
    have hclose : rule.Silent .closeParen := hrule.silent_other nofun
    simp only [Operand.tokens, List.cons_append, List.append_assoc, List.nil_append]
    rw [apply_cons_of_silent hopen, hturns _ rfl, apply_cons_of_silent hclose]

theorem IsFunctionRule.turnsFormula {rule : Rule} {name : String}
    (hrule : IsFunctionRule rule name)
    (hatom : rule.KeepsAtoms) (hnegated : rule.KeepsNegations) :
    ∀ f : Formula, ∃ g, rule.TurnsFormula f g ∧
      ∀ facts, g.alternatives facts = f.alternatives facts
  | .last o => by
    obtain ⟨p, hturns, hvalue⟩ := IsFunctionRule.turnsOperand hrule hatom hnegated o
    refine ⟨.last p, fun rest _ => hturns rest, fun facts => ?_⟩
    rw [Formula.alternatives, Formula.alternatives, hvalue facts]
  | .next o c f => by
    obtain ⟨p, hoperand, hvalue⟩ := IsFunctionRule.turnsOperand hrule hatom hnegated o
    obtain ⟨g, hformula, halternatives⟩ := IsFunctionRule.turnsFormula hrule hatom hnegated f
    refine ⟨.next p c g, fun rest hrest => ?_, fun facts => ?_⟩
    · have hconnective : rule.Silent (.connective c) := hrule.silent_other nofun
      simp only [Formula.tokens, List.append_assoc, List.cons_append]
      rw [hoperand, apply_cons_of_silent hconnective, hformula rest hrest]
    · cases c <;> simp only [Formula.alternatives, hvalue facts, halternatives facts]

end

/-- Negations stay, with what becomes of the negated formula, unless the function is `not`. -/
theorem IsFunctionRule.turns_negated {rule : Rule} {name : String}
    (hrule : IsFunctionRule rule name) (hname : Text.sameIgnoringCase "not" name = false)
    {f g : Formula} (h : rule.TurnsFormula f g) : rule.TurnsOperand (.negated f) (.negated g) := by
  intro rest
  have hopen : rule.Silent .openParen := hrule.silent_other nofun
  have hclose : rule.Silent .closeParen := hrule.silent_other nofun
  simp only [Operand.tokens, List.cons_append, List.append_assoc, List.nil_append]
  rw [apply_cons_of_silent (hrule.silent_word hname), apply_cons_of_silent hopen, h _ rfl,
    apply_cons_of_silent hclose]

/-! ## The four rules -/

theorem IsFunctionRule.keeps {rule : Rule} {name : String} (hrule : IsFunctionRule rule name)
    (hatom : rule.KeepsAtoms) (hnegated : rule.KeepsNegations) :
    rule.Keeps := by
  intro f
  obtain ⟨g, hturns, halternatives⟩ := hrule.turnsFormula hatom hnegated f
  refine ⟨g, ?_, fun facts => by rw [Formula.value, Formula.value, halternatives facts]⟩
  simpa only [List.append_nil, apply_nil] using hturns [] rfl

/-- The functions that atoms are written with. -/
def atomFunctions : List String := ["selected", "count-selected", "string-length"]

theorem mem_atomFunctions {a : Atom} {function : String} (h : a.function? = some function) :
    function ∈ atomFunctions := by
  cases a <;> simp_all [Atom.function?, atomFunctions]

/-- A rule for another function than `not` has only to keep the atoms of this function. -/
theorem IsFunctionRule.keeps_of_atom {rule : Rule} {name : String}
    (hrule : IsFunctionRule rule name) (hnot : Text.sameIgnoringCase "not" name = false)
    (hothers : ∀ function ∈ atomFunctions, function = name ∨
      Text.sameIgnoringCase function name = false)
    (hown : ∀ a : Atom, a.function? = some name →
      ∃ p, rule.TurnsOperand (.atom a) p ∧ ∀ facts, p.value facts = a.value facts) :
    rule.Keeps := by
  refine hrule.keeps (fun a => ?_) fun f g h hvalue => ?_
  · by_cases ha : a.function? = some name
    · exact hown a ha
    · refine ⟨.atom a, hrule.turns_atom fun function hfunction => ?_, fun _ => rfl⟩
      obtain rfl | hother := hothers function (mem_atomFunctions hfunction)
      · exact absurd hfunction ha
      · exact hother
  · refine ⟨.negated g, hrule.turns_negated hnot h, fun facts => ?_⟩
    rw [Operand.value, ← Formula.value, hvalue facts]

theorem isFunctionRule_selectedRule : IsFunctionRule selectedRule "selected" := by
  intro a b c d e f
  unfold selectedRule
  split
  · split
    · rename_i hword
      exact .inr ⟨_, rfl, hword⟩
    · exact .inl rfl
  · exact .inl rfl

theorem isFunctionRule_notEqualRule : IsFunctionRule notEqualRule "not" := by
  intro a b c d e f
  unfold notEqualRule
  split
  · split
    · rename_i hword
      exact .inr ⟨_, rfl, hword⟩
    · exact .inl rfl
  · exact .inl rfl

theorem isFunctionRule_countSelectedRule : IsFunctionRule countSelectedRule "count-selected" := by
  intro a b c d e f
  unfold countSelectedRule
  split
  · split
    · rename_i hword
      exact .inr ⟨_, rfl, hword⟩
    · exact .inl rfl
  · exact .inl rfl

theorem isFunctionRule_stringLengthRule : IsFunctionRule stringLengthRule "string-length" := by
  intro a b c d e f
  unfold stringLengthRule
  split
  · split
    · rename_i hword
      exact .inr ⟨_, rfl, hword⟩
    · exact .inl rfl
  · exact .inl rfl

theorem keeps_selectedRule : selectedRule.Keeps := by
  refine isFunctionRule_selectedRule.keeps_of_atom (by decide) (by decide) fun a ha => ?_
  cases a with
  | selected q v => exact ⟨.atom (.equal q v), apply_of_some rfl, fun _ => rfl⟩
  | _ => simp [Atom.function?] at ha

theorem keeps_countSelectedRule : countSelectedRule.Keeps := by
  refine isFunctionRule_countSelectedRule.keeps_of_atom (by decide) (by decide) fun a ha => ?_
  cases a with
  | countSelected q n => exact ⟨.atom (.selectedMoreThan q n), apply_of_some rfl, fun _ => rfl⟩
  | _ => simp [Atom.function?] at ha

theorem keeps_stringLengthRule : stringLengthRule.Keeps := by
  refine isFunctionRule_stringLengthRule.keeps_of_atom (by decide) (by decide) fun a ha => ?_
  cases a with
  | stringLength q n => exact ⟨.atom (.lengthEquals q n), apply_of_some rfl, fun _ => rfl⟩
  | _ => simp [Atom.function?] at ha

theorem keeps_notEqualRule : notEqualRule.Keeps := by
  have hrule := isFunctionRule_notEqualRule
  have hothers : ∀ function ∈ atomFunctions, Text.sameIgnoringCase function "not" = false := by
    decide
  refine hrule.keeps (fun a => ⟨.atom a, hrule.turns_atom fun function hfunction =>
    hothers function (mem_atomFunctions hfunction), fun _ => rfl⟩) fun f g h hvalue => ?_
  by_cases hequal : ∃ q v, f = .last (.atom (.equal q v))
  · obtain ⟨q, v, rfl⟩ := hequal
    refine ⟨.atom (.notEqual q v), apply_of_some rfl, fun facts => ?_⟩
    simp [Operand.value, Formula.value, Formula.alternatives, Atom.value]
  · refine ⟨.negated g, fun rest => ?_, fun facts => by
      rw [Operand.value, ← Formula.value, hvalue facts]⟩
    have hopen : notEqualRule.Silent .openParen := hrule.silent_other nofun
    have hclose : notEqualRule.Silent .closeParen := hrule.silent_other nofun
    simp only [Operand.tokens, List.cons_append, List.append_assoc, List.nil_append]
    rw [apply_cons_of_none, apply_cons_of_silent hopen, h _ rfl, apply_cons_of_silent hclose]
    intro b c d e k others htokens
    unfold notEqualRule
    split
    · rename_i q v _
      -- the negated formula would be the comparison
      have hformula : f.tokens ++ .closeParen :: rest =
          (Formula.last (.atom (.equal q v))).tokens ++ .closeParen :: others :=
        (List.cons.inj htokens).2
      obtain ⟨rfl, -⟩ := Formula.tokens_append_inj rfl rfl hformula
      exact absurd ⟨q, v, rfl⟩ hequal
    · rfl

theorem reduceAll_keeps {rules : List Rule} (h : ∀ rule ∈ rules, rule.Keeps) (f : Formula) :
    ∃ g : Formula, reduceAll rules f.tokens = g.tokens ∧
      ∀ facts, g.value facts = f.value facts := by
  induction rules generalizing f with
  | nil => exact ⟨f, rfl, fun _ => rfl⟩
  | cons rule rules ih =>
    obtain ⟨g, hrule, hvalue⟩ := h rule List.mem_cons_self f
    obtain ⟨k, hrules, hvalue'⟩ := ih (fun other hm => h other (List.mem_cons_of_mem _ hm)) g
    refine ⟨k, ?_, fun facts => (hvalue' facts).trans (hvalue facts)⟩
    rw [reduceAll, List.foldl_cons, hrule, ← hrules, reduceAll]

theorem keeps_of_mem_sugarRules {rule : Rule} (h : rule ∈ sugarRules) : rule.Keeps := by
  simp only [sugarRules, List.mem_cons, List.not_mem_nil, or_false] at h
  obtain rfl | rfl | rfl | rfl := h
  · exact keeps_selectedRule
  · exact keeps_notEqualRule
  · exact keeps_countSelectedRule
  · exact keeps_stringLengthRule

theorem reduceAll_sugarRules_keeps (f : Formula) : ∃ g : Formula,
    reduceAll sugarRules f.tokens = g.tokens ∧ ∀ facts, g.value facts = f.value facts :=
  reduceAll_keeps (fun _ => keeps_of_mem_sugarRules) f

end Questionnaire.Relevance
