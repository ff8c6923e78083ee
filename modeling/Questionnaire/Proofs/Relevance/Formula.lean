import Questionnaire.Relevance.Reduction

/-!
# Formulas

The boolean expressions that conditions are written in. A formula is a chain of operands with
`and` or `or` between them, of which `and` binds tighter; an operand is a fact about an answer, or
a formula that is negated or stands in parentheses. Facts are written with functions or as the
idioms that replace them.

Main definitions:

* `Formula.tokens`: a formula written out.
* `Formula.value`: its truth value, given the facts about the answers.

Results:

* `Formula.tokens_append_inj`: a text begins with one formula at most that no connective goes on.
* `Formula.tokens_injective`: a token list is read as one formula at most.
-/

namespace Questionnaire.Relevance

/-! ## Facts -/

/-- What is known about the answers, each fact by the name of its question. -/
structure Facts where
  /-- The answer equals a value. -/
  equals : String → String → Bool
  /-- More than so many options were selected. -/
  moreThan : String → String → Bool
  /-- The answer has so many characters. -/
  hasLength : String → String → Bool

/-- A single statement about the answer to a question. -/
inductive Atom where
  | equal (question value : String)
  | notEqual (question value : String)
  | selected (question value : String)
  | countSelected (question count : String)
  | stringLength (question count : String)
  -- idioms
  | selectedMoreThan (question count : String)
  | lengthEquals (question count : String)
  | notAnswered (question : String)

def Atom.tokens : Atom → List Token
  | .equal q v => [.reference q, .comparison .equal, .literal v]
  | .notEqual q v => [.reference q, .comparison .notEqual, .literal v]
  | .selected q v =>
    [.word "selected", .openParen, .reference q, .comma, .literal v, .closeParen]
  | .countSelected q n =>
    [.word "count-selected", .openParen, .reference q, .closeParen, .comparison .greater, .number n]
  | .stringLength q n =>
    [.word "string-length", .openParen, .reference q, .closeParen, .comparison .equal, .number n]
  | .selectedMoreThan q n => [.reference q, .selectedMoreThan n]
  | .lengthEquals q n => [.reference q, .lengthEquals n]
  | .notAnswered q => [.reference q, .notAnswered]

def Atom.value (facts : Facts) : Atom → Bool
  | .equal q v | .selected q v => facts.equals q v
  | .notEqual q v => !facts.equals q v
  | .countSelected q n | .selectedMoreThan q n => facts.moreThan q n
  | .stringLength q n | .lengthEquals q n => facts.hasLength q n
  | .notAnswered q => facts.equals q "NaN" || facts.hasLength q "0"

/-! ## Formulas -/

mutual

/-- What stands between connectives. -/
inductive Operand where
  | atom (atom : Atom)
  /-- `not(...)` -/
  | negated (inner : Formula)
  /-- `(...)` -/
  | grouped (inner : Formula)

/-- Operands with connectives between them. -/
inductive Formula where
  | last (operand : Operand)
  | next (operand : Operand) (connective : Connective) (rest : Formula)

end

mutual

def Operand.tokens : Operand → List Token
  | .atom a => a.tokens
  | .negated inner => .word "not" :: .openParen :: (inner.tokens ++ [.closeParen])
  | .grouped inner => .openParen :: (inner.tokens ++ [.closeParen])

def Formula.tokens : Formula → List Token
  | .last o => o.tokens
  | .next o c rest => o.tokens ++ .connective c :: rest.tokens

end

mutual

def Operand.value (facts : Facts) : Operand → Bool
  | .atom a => a.value facts
  | .negated inner => !((inner.alternatives facts).1 || (inner.alternatives facts).2)
  | .grouped inner => (inner.alternatives facts).1 || (inner.alternatives facts).2

/-- The alternatives of a formula are its operands as far as `and` joins them. Whether the first
of them is true, and whether any of the others is. -/
def Formula.alternatives (facts : Facts) : Formula → Bool × Bool
  | .last o => (o.value facts, false)
  | .next o .and rest =>
    (o.value facts && (rest.alternatives facts).1, (rest.alternatives facts).2)
  | .next o .or rest =>
    (o.value facts, (rest.alternatives facts).1 || (rest.alternatives facts).2)

end

/-- A formula is true when one of its alternatives is. -/
def Formula.value (facts : Facts) (formula : Formula) : Bool :=
  (formula.alternatives facts).1 || (formula.alternatives facts).2

/-! ## One reading -/

/-- The tokens go on with a connective. -/
def beginsWithConnective : List Token → Bool
  | .connective _ :: _ => true
  | _ => false

theorem Atom.tokens_append_inj {a b : Atom} {rest other : List Token}
    (h : a.tokens ++ rest = b.tokens ++ other) : a = b ∧ rest = other := by
  cases a <;> cases b <;> simp_all [Atom.tokens]

/-- No atom begins like `not(...)` or `(...)`. -/
theorem Atom.tokens_append_ne_open {a : Atom} {rest other : List Token} :
    a.tokens ++ rest ≠ .openParen :: other := by
  cases a <;> simp [Atom.tokens]

theorem Atom.tokens_append_ne_not {a : Atom} {rest other : List Token} :
    a.tokens ++ rest ≠ .word "not" :: other := by
  cases a <;> simp [Atom.tokens]

mutual

theorem Operand.tokens_append_inj : ∀ {o p : Operand} {rest other : List Token},
    o.tokens ++ rest = p.tokens ++ other → o = p ∧ rest = other
  | .atom a, .atom b, rest, other, h => by
    obtain ⟨rfl, hrest⟩ := Atom.tokens_append_inj (by simpa only [Operand.tokens] using h)
    exact ⟨rfl, hrest⟩
  | .atom a, .negated g, rest, other, h => by
    simp only [Operand.tokens, List.cons_append] at h
    exact absurd h Atom.tokens_append_ne_not
  | .atom a, .grouped g, rest, other, h => by
    simp only [Operand.tokens, List.cons_append] at h
    exact absurd h Atom.tokens_append_ne_open
  | .negated f, .atom b, rest, other, h => by
    simp only [Operand.tokens, List.cons_append] at h
    exact absurd h.symm Atom.tokens_append_ne_not
  | .grouped f, .atom b, rest, other, h => by
    simp only [Operand.tokens, List.cons_append] at h
    exact absurd h.symm Atom.tokens_append_ne_open
  | .negated f, .grouped g, rest, other, h => by
    simp [Operand.tokens] at h
  | .grouped f, .negated g, rest, other, h => by
    simp [Operand.tokens] at h
  | .negated f, .negated g, rest, other, h => by
    simp only [Operand.tokens, List.cons_append, List.append_assoc, List.nil_append,
      List.cons.injEq, true_and] at h
    obtain ⟨rfl, hrest⟩ := Formula.tokens_append_inj rfl rfl h
    exact ⟨rfl, (List.cons.inj hrest).2⟩
  | .grouped f, .grouped g, rest, other, h => by
    simp only [Operand.tokens, List.cons_append, List.append_assoc, List.nil_append,
      List.cons.injEq, true_and] at h
    obtain ⟨rfl, hrest⟩ := Formula.tokens_append_inj rfl rfl h
    exact ⟨rfl, (List.cons.inj hrest).2⟩

/-- Two formulas at the start of one text are the same if no connective goes on behind them. -/
theorem Formula.tokens_append_inj : ∀ {f g : Formula} {rest other : List Token},
    beginsWithConnective rest = false → beginsWithConnective other = false →
      f.tokens ++ rest = g.tokens ++ other → f = g ∧ rest = other
  | .last o, .last p, rest, other, _, _, h => by
    simp only [Formula.tokens] at h
    obtain ⟨rfl, hrest⟩ := Operand.tokens_append_inj h
    exact ⟨rfl, hrest⟩
  | .last o, .next p d g, rest, other, hr, _, h => by
    simp only [Formula.tokens, List.append_assoc, List.cons_append] at h
    obtain ⟨rfl, hrest⟩ := Operand.tokens_append_inj h
    rw [hrest] at hr
    cases hr
  | .next o c f, .last p, rest, other, _, ho, h => by
    simp only [Formula.tokens, List.append_assoc, List.cons_append] at h
    obtain ⟨rfl, hrest⟩ := Operand.tokens_append_inj h
    rw [← hrest] at ho
    cases ho
  | .next o c f, .next p d g, rest, other, hr, ho, h => by
    simp only [Formula.tokens, List.append_assoc, List.cons_append] at h
    obtain ⟨rfl, htail⟩ := Operand.tokens_append_inj h
    obtain ⟨hconnective, hformula⟩ := List.cons.inj htail
    obtain ⟨rfl, hrest⟩ := Formula.tokens_append_inj hr ho hformula
    exact ⟨by rw [Token.connective.inj hconnective], hrest⟩

end

theorem Formula.tokens_injective {f g : Formula} (h : f.tokens = g.tokens) : f = g := by
  have happend : f.tokens ++ [] = g.tokens ++ [] := by rw [h]
  exact (Formula.tokens_append_inj rfl rfl happend).1

end Questionnaire.Relevance
