import Questionnaire.Proofs.Relevance.Functions

/-!
# What reductions mean

The rule for unanswered questions joins two operands with the `or` between them. That is again a
formula, but next to an `and` the two operands belong to different alternatives, and the truth
value may change.

Results:

* `collapsesFormula_exists`: the rule keeps a formula as far as idioms stand apart.
* `reduced_tokens_value`: all rules together.
* `reduced_splitIdiom`: a formula that changes its truth value.
-/

namespace Questionnaire.Relevance

open Rule

/-! ## The rule for unanswered questions -/

/-- What the rule replaces. -/
def idiom (q : String) : Formula :=
  .next (.atom (.equal q "NaN")) .or (.last (.atom (.lengthEquals q "0")))

def BeginsWithIdiom (tokens : List Token) : Prop := ∃ q rest, tokens = (idiom q).tokens ++ rest

/-- No idiom has an `and` directly before or behind it. -/
def IdiomsApart (tokens : List Token) : Prop :=
  ∀ front q back, tokens = front ++ (idiom q).tokens ++ back →
    front.getLast? ≠ some (.connective .and) ∧ back.head? ≠ some (.connective .and)

theorem IdiomsApart.infix (front back : List Token) {tokens : List Token}
    (h : IdiomsApart (front ++ tokens ++ back)) : IdiomsApart tokens := by
  intro before q behind htokens
  obtain ⟨hbefore, hbehind⟩ := h (front ++ before) q (behind ++ back) (by simp [htokens])
  refine ⟨fun hlast => hbefore ?_, fun hhead => hbehind ?_⟩
  · rw [List.getLast?_append, hlast, Option.some_or]
  · rw [List.head?_append, hhead, Option.some_or]

/-- No formula that begins with an idiom follows an `and`. -/
theorem IdiomsApart.not_beginsWithIdiom {front tokens : List Token}
    (h : IdiomsApart (front ++ .connective .and :: tokens)) : ¬ BeginsWithIdiom tokens := by
  rintro ⟨q, rest, rfl⟩
  refine (h (front ++ [.connective .and]) q rest (by simp)).1 ?_
  rw [List.getLast?_concat]

theorem answeredRule_eq_none {a b c d e f : Token}
    (h : ∀ q, [a, b, c, d, e, f] ≠ (idiom q).tokens) : answeredRule a b c d e f = none := by
  unfold answeredRule
  split
  · rename_i q nan other zero
    refine if_neg ?_
    rintro ⟨rfl, rfl, rfl⟩
    exact h q rfl
  · rfl

theorem answeredRule_silent {token : Token} (h : ∀ q, token ≠ .reference q) :
    answeredRule.Silent token := by
  intro b c d e f
  refine answeredRule_eq_none fun q hidiom => h q ?_
  exact (List.cons.inj hidiom).1

theorem answeredRule_apply_cons {token : Token} {rest : List Token}
    (h : ¬ BeginsWithIdiom (token :: rest)) :
    answeredRule.apply (token :: rest) = token :: answeredRule.apply rest := by
  refine apply_cons_of_none fun b c d e f others hrest => answeredRule_eq_none fun q hidiom => ?_
  refine h ⟨q, others, ?_⟩
  rw [← hidiom, hrest]
  rfl

theorem answeredRule_apply_other {token : Token} (h : ∀ q, token ≠ .reference q)
    (rest : List Token) : answeredRule.apply (token :: rest) = token :: answeredRule.apply rest :=
  apply_cons_of_silent (answeredRule_silent h) rest

theorem answeredRule_apply_reference {q : String} {second : Token}
    (h : second ≠ .comparison .equal) (rest : List Token) :
    answeredRule.apply (.reference q :: second :: rest) =
      .reference q :: answeredRule.apply (second :: rest) := by
  refine answeredRule_apply_cons ?_
  rintro ⟨other, behind, hidiom⟩
  obtain ⟨-, hsecond⟩ := List.cons.inj hidiom
  exact h (List.cons.inj hsecond).1

theorem answeredRule_apply_idiom (q : String) (rest : List Token) :
    answeredRule.apply ((idiom q).tokens ++ rest) =
      [.reference q, .notAnswered] ++ answeredRule.apply rest := by
  have hrule : answeredRule (.reference q) (.comparison .equal) (.literal "NaN") (.connective .or)
      (.reference q) (.lengthEquals "0") = some [.reference q, .notAnswered] := by
    simp [answeredRule]
  exact apply_of_some hrule rest

/-- A formula begins with an idiom by itself or not at all. -/
theorem Formula.beginsWithIdiom_cases {f : Formula} (rest : List Token)
    (hrest : beginsWithConnective rest = false) (h : BeginsWithIdiom (f.tokens ++ rest)) :
    ∃ q, f = idiom q ∨ ∃ d g, f = .next (.atom (.equal q "NaN")) .or
      (.next (.atom (.lengthEquals q "0")) d g) := by
  obtain ⟨q, tail, h⟩ := h
  refine ⟨q, ?_⟩
  cases f with
  | last o =>
    have hfirst : o.tokens ++ rest = (Operand.atom (.equal q "NaN")).tokens ++
        .connective .or :: ((Operand.atom (.lengthEquals q "0")).tokens ++ tail) := h
    obtain ⟨-, rfl⟩ := Operand.tokens_append_inj hfirst
    cases hrest
  | next o c f =>
    have hfirst : o.tokens ++ .connective c :: (f.tokens ++ rest) =
        (Operand.atom (.equal q "NaN")).tokens ++
          .connective .or :: ((Operand.atom (.lengthEquals q "0")).tokens ++ tail) := by
      rw [← List.cons_append, ← List.append_assoc]
      exact h
    obtain ⟨rfl, hbehind⟩ := Operand.tokens_append_inj hfirst
    obtain ⟨hconnective, hsecond⟩ := List.cons.inj hbehind
    obtain rfl := Token.connective.inj hconnective
    cases f with
    | last p =>
      obtain ⟨rfl, -⟩ := Operand.tokens_append_inj hsecond
      exact .inl rfl
    | next p d g =>
      simp only [Formula.tokens, List.append_assoc] at hsecond
      obtain ⟨rfl, -⟩ := Operand.tokens_append_inj hsecond
      exact .inr ⟨d, g, rfl⟩

theorem Formula.beginsWithIdiom_of_append {f : Formula} {rest : List Token}
    (hrest : beginsWithConnective rest = false) (h : BeginsWithIdiom (f.tokens ++ rest)) :
    BeginsWithIdiom f.tokens := by
  obtain ⟨q, rfl | ⟨d, g, rfl⟩⟩ := Formula.beginsWithIdiom_cases rest hrest h
  · exact ⟨q, [], by rw [List.append_nil]⟩
  · exact ⟨q, .connective d :: g.tokens, rfl⟩

/-- The rule leaves the second operand where the first one stands, if no idiom begins there. -/
structure CollapsesOperand (o p : Operand) : Prop where
  turns : ∀ rest, ¬ BeginsWithIdiom (o.tokens ++ rest) →
    answeredRule.apply (o.tokens ++ rest) = p.tokens ++ answeredRule.apply rest
  value : IdiomsApart o.tokens → ∀ facts, p.value facts = o.value facts

/-- The rule leaves the second formula where the first one stands. Its first alternative is the same
if it does not begin with an idiom. -/
structure CollapsesFormula (f g : Formula) : Prop where
  turns : answeredRule.TurnsFormula f g
  value : IdiomsApart f.tokens → ∀ facts, g.value facts = f.value facts
  alternatives : IdiomsApart f.tokens → ¬ BeginsWithIdiom f.tokens →
    ∀ facts, g.alternatives facts = f.alternatives facts

theorem CollapsesOperand.atom (a : Atom) : CollapsesOperand (.atom a) (.atom a) where
  turns rest h := by
    cases a with
    | equal q v =>
      have hfirst := answeredRule_apply_cons h
      simpa [Operand.tokens, Atom.tokens, answeredRule_apply_other] using hfirst
    | _ =>
      simp [Operand.tokens, Atom.tokens, answeredRule_apply_other, answeredRule_apply_reference]
  value _ _ := rfl

theorem CollapsesOperand.negated {f g : Formula} (h : CollapsesFormula f g) :
    CollapsesOperand (.negated f) (.negated g) where
  turns rest _ := by
    simp only [Operand.tokens, List.cons_append, List.append_assoc, List.nil_append]
    have hword : answeredRule.Silent (.word "not") := answeredRule_silent nofun
    have hopen : answeredRule.Silent .openParen := answeredRule_silent nofun
    have hclose : answeredRule.Silent .closeParen := answeredRule_silent nofun
    rw [apply_cons_of_silent hword, apply_cons_of_silent hopen, h.turns _ rfl,
      apply_cons_of_silent hclose]
  value hapart facts := by
    have hinner : IdiomsApart f.tokens :=
      IdiomsApart.infix [.word "not", .openParen] [.closeParen] hapart
    rw [Operand.value, ← Formula.value, h.value hinner facts, Formula.value, Operand.value]

theorem CollapsesOperand.grouped {f g : Formula} (h : CollapsesFormula f g) :
    CollapsesOperand (.grouped f) (.grouped g) where
  turns rest _ := by
    simp only [Operand.tokens, List.cons_append, List.append_assoc, List.nil_append]
    have hopen : answeredRule.Silent .openParen := answeredRule_silent nofun
    have hclose : answeredRule.Silent .closeParen := answeredRule_silent nofun
    rw [apply_cons_of_silent hopen, h.turns _ rfl, apply_cons_of_silent hclose]
  value hapart facts := by
    have hinner : IdiomsApart f.tokens :=
      IdiomsApart.infix [.openParen] [.closeParen] hapart
    rw [Operand.value, ← Formula.value, h.value hinner facts, Formula.value, Operand.value]

theorem CollapsesFormula.last {o p : Operand} (h : CollapsesOperand o p) :
    CollapsesFormula (.last o) (.last p) := by
  have halternatives : IdiomsApart o.tokens → ∀ facts,
      (Formula.last p).alternatives facts = (Formula.last o).alternatives facts := by
    intro hapart facts
    rw [Formula.alternatives, Formula.alternatives, h.value hapart facts]
  refine ⟨fun rest hrest => h.turns rest ?_, fun hapart facts => ?_, fun hapart _ =>
    halternatives hapart⟩
  · intro hidiom
    obtain ⟨q, hcase | ⟨d, g, hcase⟩⟩ :=
      Formula.beginsWithIdiom_cases (f := .last o) rest hrest hidiom
    · cases hcase
    · cases hcase
  · rw [Formula.value, Formula.value, halternatives hapart facts]

/-- Where no idiom begins, the operand stays apart from what follows. -/
theorem CollapsesFormula.next {o p : Operand} {c : Connective} {f g : Formula}
    (ho : CollapsesOperand o p) (hf : CollapsesFormula f g)
    (hidiom : ¬ BeginsWithIdiom (Formula.next o c f).tokens) :
    CollapsesFormula (.next o c f) (.next p c g) := by
  have halternatives : IdiomsApart (Formula.next o c f).tokens → ∀ facts,
      (Formula.next p c g).alternatives facts = (Formula.next o c f).alternatives facts := by
    intro hapart facts
    have hoperand : IdiomsApart o.tokens := IdiomsApart.infix [] _ hapart
    have hrest : IdiomsApart f.tokens := by
      refine IdiomsApart.infix (o.tokens ++ [.connective c]) [] ?_
      simpa [Formula.tokens] using hapart
    cases c with
    | and =>
      have hbegin : ¬ BeginsWithIdiom f.tokens := hapart.not_beginsWithIdiom
      simp only [Formula.alternatives, ho.value hoperand facts, hf.alternatives hrest hbegin facts]
    | or =>
      have hvalue := hf.value hrest facts
      simp only [Formula.value] at hvalue
      simp only [Formula.alternatives, ho.value hoperand facts, hvalue]
  refine ⟨fun rest hrest => ?_, fun hapart facts => ?_, fun hapart _ => halternatives hapart⟩
  · have hbegin : ¬ BeginsWithIdiom ((Formula.next o c f).tokens ++ rest) :=
      fun h => hidiom (Formula.beginsWithIdiom_of_append hrest h)
    simp only [Formula.tokens, List.append_assoc, List.cons_append] at hbegin ⊢
    have hconnective : answeredRule.Silent (.connective c) := answeredRule_silent nofun
    rw [ho.turns _ hbegin, apply_cons_of_silent hconnective, hf.turns rest hrest]
  · rw [Formula.value, Formula.value, halternatives hapart facts]

theorem CollapsesFormula.idiom (q : String) :
    CollapsesFormula (idiom q) (.last (.atom (.notAnswered q))) where
  turns rest _ := answeredRule_apply_idiom q rest
  value _ facts := by
    simp [Formula.value, Formula.alternatives, Operand.value, Atom.value, Relevance.idiom]
  alternatives _ hbegin := absurd ⟨q, [], by rw [List.append_nil]⟩ hbegin

/-- Behind an idiom follows an alternative of its own, unless there is an `and`. -/
theorem CollapsesFormula.idiom_next (q : String) (d : Connective) {f g : Formula}
    (h : CollapsesFormula f g) :
    CollapsesFormula (.next (.atom (.equal q "NaN")) .or (.next (.atom (.lengthEquals q "0")) d f))
      (.next (.atom (.notAnswered q)) d g) where
  turns rest hrest := by
    have hrule := answeredRule_apply_idiom q (.connective d :: (f.tokens ++ rest))
    have hconnective : answeredRule.Silent (.connective d) := answeredRule_silent nofun
    rw [apply_cons_of_silent hconnective, h.turns rest hrest] at hrule
    exact hrule
  value hapart facts := by
    have hdirect := (hapart [] q (.connective d :: f.tokens) rfl).2
    have hrest : IdiomsApart f.tokens := by
      refine IdiomsApart.infix ((Relevance.idiom q).tokens ++ [.connective d]) [] ?_
      simpa [Formula.tokens, Relevance.idiom] using hapart
    cases d with
    | and => exact absurd rfl hdirect
    | or =>
      have hvalue := h.value hrest facts
      simp only [Formula.value] at hvalue
      simp [Formula.value, Formula.alternatives, Operand.value, Atom.value, hvalue, Bool.or_assoc]
  alternatives _ hbegin := absurd ⟨q, .connective d :: f.tokens, rfl⟩ hbegin

mutual

theorem collapsesOperand_exists : ∀ o : Operand, ∃ p, CollapsesOperand o p
  | .atom a => ⟨.atom a, .atom a⟩
  | .negated f => by
    obtain ⟨g, h⟩ := collapsesFormula_exists f
    exact ⟨.negated g, .negated h⟩
  | .grouped f => by
    obtain ⟨g, h⟩ := collapsesFormula_exists f
    exact ⟨.grouped g, .grouped h⟩

theorem collapsesFormula_exists : ∀ f : Formula, ∃ g, CollapsesFormula f g
  | .last o => by
    obtain ⟨p, h⟩ := collapsesOperand_exists o
    exact ⟨.last p, .last h⟩
  | .next o c (.last o') => by
    obtain ⟨p, hoperand⟩ := collapsesOperand_exists o
    obtain ⟨p', hlast⟩ := collapsesOperand_exists o'
    by_cases hidiom : BeginsWithIdiom (Formula.next o c (.last o')).tokens
    · obtain ⟨q, hcase | ⟨d, g, hcase⟩⟩ := Formula.beginsWithIdiom_cases [] rfl
        (by rwa [List.append_nil])
      · rw [hcase]
        exact ⟨_, .idiom q⟩
      · cases hcase
    · exact ⟨_, .next hoperand (.last hlast) hidiom⟩
  | .next o c (.next o' d f) => by
    obtain ⟨p, hoperand⟩ := collapsesOperand_exists o
    obtain ⟨g, hrest⟩ := collapsesFormula_exists (.next o' d f)
    obtain ⟨g', hbehind⟩ := collapsesFormula_exists f
    by_cases hidiom : BeginsWithIdiom (Formula.next o c (.next o' d f)).tokens
    · obtain ⟨q, hcase | ⟨d', k, hcase⟩⟩ := Formula.beginsWithIdiom_cases [] rfl
        (by rwa [List.append_nil])
      · cases hcase
      · obtain ⟨rfl, rfl, rfl, rfl, rfl⟩ : o = .atom (.equal q "NaN") ∧ c = .or ∧
            o' = .atom (.lengthEquals q "0") ∧ d = d' ∧ f = k := by simpa using hcase
        exact ⟨_, .idiom_next q d hbehind⟩
    · exact ⟨_, .next hoperand hrest hidiom⟩

end

/-- The rules turn every formula into a formula. The rules for functions keep its truth value, and
all rules do if no idiom has an `and` directly before or behind it. -/
theorem reduced_tokens_value (f : Formula) : ∃ g h : Formula,
    (reduceAll sugarRules f.tokens = g.tokens ∧ ∀ facts, g.value facts = f.value facts) ∧
    reduced f.tokens = h.tokens ∧
    (IdiomsApart g.tokens → ∀ facts, h.value facts = f.value facts) := by
  obtain ⟨g, hsugar, hvalue⟩ := reduceAll_sugarRules_keeps f
  obtain ⟨h, hcollapses⟩ := collapsesFormula_exists g
  refine ⟨g, h, ⟨hsugar, hvalue⟩, ?_, fun hapart facts => ?_⟩
  · have hanswered := hcollapses.turns [] rfl
    rw [List.append_nil, apply_nil, List.append_nil] at hanswered
    have hreduced : reduced f.tokens = answeredRule.apply (reduceAll sugarRules f.tokens) := rfl
    rw [hreduced, hsugar, hanswered]
  · rw [hcollapses.value hapart facts, hvalue facts]

/-- An idiom of which only one half belongs to the alternative before it:
`${p} = 'x' and ${q} = 'NaN' or string-length(${q}) = 0`. -/
def splitIdiom : Formula :=
  .next (.atom (.equal "p" "x")) .and
    (.next (.atom (.equal "q" "NaN")) .or (.last (.atom (.stringLength "q" "0"))))

/-- The condition is needed: where the answer to `q` is empty, this formula is true, and the reduced
one asks for `p` besides. -/
theorem reduced_splitIdiom :
    ¬ ∃ h : Formula, reduced splitIdiom.tokens = h.tokens ∧
      ∀ facts, h.value facts = splitIdiom.value facts := by
  rintro ⟨h, htokens, hvalue⟩
  have hreduced : reduced splitIdiom.tokens =
      (Formula.next (.atom (.equal "p" "x")) .and (.last (.atom (.notAnswered "q")))).tokens := by
    decide
  obtain rfl := Formula.tokens_injective (hreduced.symm.trans htokens)
  have hempty := hvalue ⟨fun _ _ => false, fun _ _ => false, fun _ _ => true⟩
  revert hempty
  decide

end Questionnaire.Relevance
