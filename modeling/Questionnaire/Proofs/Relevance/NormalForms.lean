import Mathlib.Data.List.Nodup
import Mathlib.Logic.Relation
import Questionnaire.Relevance.Reduction

/-!
# Normal forms of token lists

A step replaces six tokens in a row by one of the rules, anywhere in a token list. What two rules
replace never overlaps, so steps at different places do not get in each other's way, and every
sequence of steps ends in the same list. The rules are ordered so that none of them brings about
what it or an earlier one replaces: to apply each of them once is enough to get there.

Whether token lists may overlap is decided by their shapes, the tokens without their texts.

Main definitions:

* `Step`, `IsNormal`: one replacement, and that none is left.
* `shapedRules`: the rules with the shapes of what they replace and of what they bring about.

Results:

* `free_reduceAll`: after a pass of each rule, none has anything to replace.
* `Step.diamond`: two steps from the same list meet again.
* `reduced_unique`: every sequence of steps ends, and always in the reduced tokens.
-/

namespace Questionnaire.Relevance

open Relation (ReflTransGen ReflGen Join)

/-! ## Steps -/

/-- Six tokens in a row are replaced by one of the rules. -/
inductive Step : List Token → List Token → Prop where
  | here {rule : Rule} {a b c d e f : Token} {replacement : List Token}
    (hrule : rule ∈ sugarRules ++ [answeredRule]) (h : rule a b c d e f = some replacement)
    (rest : List Token) : Step (a :: b :: c :: d :: e :: f :: rest) (replacement ++ rest)
  | there (token : Token) {tokens next : List Token} (h : Step tokens next) :
    Step (token :: tokens) (token :: next)

/-- No rule replaces any of the tokens. -/
def IsNormal (tokens : List Token) : Prop := ∀ next, ¬ Step tokens next

theorem Step.append {tokens next : List Token} (h : Step tokens next) (front : List Token) :
    Step (front ++ tokens) (front ++ next) := by
  induction front with
  | nil => exact h
  | cons token front ih => exact .there token ih

/-! ## Shapes -/

/-- The token without its text. -/
def Token.shape : Token → Token
  | .reference _ => .reference ""
  | .literal _ => .literal ""
  | .number _ => .number ""
  | .word _ => .word ""
  | .symbol _ => .symbol ' '
  | .selectedMoreThan _ => .selectedMoreThan ""
  | .lengthEquals _ => .lengthEquals ""
  | token => token

/-- The lists agree as far as both of them go. -/
def Agree (tokens others : List Token) : Prop := tokens <+: others ∨ others <+: tokens

instance (tokens others : List Token) : Decidable (Agree tokens others) :=
  inferInstanceAs (Decidable (_ ∨ _))

/-- The other list may begin at one of the tokens. -/
def beginsIn (others : List Token) : List Token → Bool
  | [] => false
  | token :: tokens => decide (Agree (token :: tokens) others) || beginsIn others tokens

/-- Neither of the lists may begin in the other. -/
def Apart (tokens others : List Token) : Prop :=
  beginsIn tokens others = false ∧ beginsIn others tokens = false

instance (tokens others : List Token) : Decidable (Apart tokens others) :=
  inferInstanceAs (Decidable (_ ∧ _))

/-- Two beginnings of the same tokens agree. -/
theorem agree_shape {tokens front other : List Token} (hfront : front <+: tokens)
    (hother : other <+: tokens) : Agree (front.map Token.shape) (other.map Token.shape) :=
  (List.prefix_or_prefix_of_prefix hfront hother).imp (·.map Token.shape) (·.map Token.shape)

theorem not_agree_of_beginsIn {others : List Token} {token : Token} {tokens : List Token}
    (h : beginsIn others ((token :: tokens).map Token.shape) = false) :
    ¬ Agree ((token :: tokens).map Token.shape) others ∧
      beginsIn others (tokens.map Token.shape) = false := by
  rwa [List.map_cons, beginsIn, Bool.or_eq_false_iff, decide_eq_false_iff_not] at h

/-- The shapes of what a rule replaces, and of what it brings about in its place. -/
structure Shape where
  redex : List Token
  image : List Token
  deriving DecidableEq

def Rule.HasShape (rule : Rule) (shape : Shape) : Prop :=
  ∀ a b c d e f replacement, rule a b c d e f = some replacement →
    [a, b, c, d, e, f].map Token.shape = shape.redex ∧
      replacement.map Token.shape = shape.image

def shapedRules : List (Rule × Shape) :=
  [(selectedRule,
      ⟨[.word "", .openParen, .reference "", .comma, .literal "", .closeParen],
        [.reference "", .comparison .equal, .literal ""]⟩),
    (notEqualRule,
      ⟨[.word "", .openParen, .reference "", .comparison .equal, .literal "", .closeParen],
        [.reference "", .comparison .notEqual, .literal ""]⟩),
    (countSelectedRule,
      ⟨[.word "", .openParen, .reference "", .closeParen, .comparison .greater, .number ""],
        [.reference "", .selectedMoreThan ""]⟩),
    (stringLengthRule,
      ⟨[.word "", .openParen, .reference "", .closeParen, .comparison .equal, .number ""],
        [.reference "", .lengthEquals ""]⟩),
    (answeredRule,
      ⟨[.reference "", .comparison .equal, .literal "", .connective .or, .reference "",
          .lengthEquals ""],
        [.reference "", .notAnswered]⟩)]

theorem hasShape_of_mem {entry : Rule × Shape} (h : entry ∈ shapedRules) :
    entry.1.HasShape entry.2 := by
  intro a b c d e f replacement hrule
  simp only [shapedRules, List.mem_cons, List.not_mem_nil, or_false] at h
  obtain rfl | rfl | rfl | rfl | rfl := h
  all_goals
    simp only [selectedRule, notEqualRule, countSelectedRule, stringLengthRule, answeredRule]
      at hrule
    split at hrule
    · split at hrule
      · cases hrule
        exact ⟨rfl, rfl⟩
      · cases hrule
    · cases hrule

theorem exists_shape_of_mem {rule : Rule} (h : rule ∈ sugarRules ++ [answeredRule]) :
    ∃ shape, (rule, shape) ∈ shapedRules := by
  have hmem : rule ∈ shapedRules.map Prod.fst := h
  obtain ⟨⟨_, shape⟩, hentry, rfl⟩ := List.mem_map.1 hmem
  exact ⟨shape, hentry⟩

/-! ## One pass of a rule -/

namespace Rule

/-- The rule does not replace the first six tokens. -/
def PassesOver (rule : Rule) (token : Token) (rest : List Token) : Prop :=
  ∀ b c d e f others, rest = b :: c :: d :: e :: f :: others → rule token b c d e f = none

/-- The rule replaces none of the tokens. -/
def Free (rule : Rule) : List Token → Prop
  | [] => True
  | token :: rest => rule.PassesOver token rest ∧ Free rule rest

namespace HasShape

variable {rule other : Rule} {shape shape' : Shape}

/-- Tokens that agree with no redex do not begin one, whatever follows them. -/
theorem passesOver_append (hother : other.HasShape shape') {token : Token}
    {front : List Token} (h : ¬ Agree ((token :: front).map Token.shape) shape'.redex)
    (rest : List Token) : other.PassesOver token (front ++ rest) := by
  intro b c d e f others htokens
  refine Option.eq_none_iff_forall_ne_some.2 fun replacement hsome => h ?_
  rw [← (hother _ _ _ _ _ _ _ hsome).1]
  have hfront : token :: front <+: token :: front ++ rest := List.prefix_append _ rest
  exact agree_shape hfront ⟨others, congrArg (token :: ·) htokens.symm⟩

theorem free_append (hother : other.HasShape shape') {front rest : List Token}
    (h : beginsIn shape'.redex (front.map Token.shape) = false) (hrest : other.Free rest) :
    other.Free (front ++ rest) := by
  induction front with
  | nil => exact hrest
  | cons token front ih =>
    obtain ⟨hagree, hfront⟩ := not_agree_of_beginsIn h
    exact ⟨hother.passesOver_append hagree rest, ih hfront⟩

/-- Where the rule cannot have brought them about, the first tokens were there before. -/
theorem prefix_of_prefix_apply (hrule : rule.HasShape shape) {front tokens : List Token}
    (h : beginsIn shape.image (front.map Token.shape) = false)
    (hfront : front <+: rule.apply tokens) : front <+: tokens := by
  fun_induction Rule.apply rule tokens generalizing front with
  | case1 => exact hfront
  | case2 a b c d e f rest replacement hsome ih =>
    cases front with
    | nil => exact List.nil_prefix
    | cons token front =>
      refine absurd ?_ (not_agree_of_beginsIn h).1
      rw [← (hrule _ _ _ _ _ _ _ hsome).2]
      exact agree_shape hfront (List.prefix_append _ _)
  | case3 a b c d e f rest hnone ih =>
    cases front with
    | nil => exact List.nil_prefix
    | cons token front =>
      obtain ⟨rfl, hrest⟩ := List.cons_prefix_cons.1 hfront
      exact List.cons_prefix_cons.2 ⟨rfl, ih (not_agree_of_beginsIn h).2 hrest⟩
  | case4 a rest hshort ih =>
    cases front with
    | nil => exact List.nil_prefix
    | cons token front =>
      obtain ⟨rfl, hrest⟩ := List.cons_prefix_cons.1 hfront
      exact List.cons_prefix_cons.2 ⟨rfl, ih (not_agree_of_beginsIn h).2 hrest⟩

theorem passesOver_apply (hrule : rule.HasShape shape) (hother : other.HasShape shape')
    (himage : beginsIn shape.image shape'.redex = false) {token : Token} {rest : List Token}
    (h : other.PassesOver token rest) : other.PassesOver token (rule.apply rest) := by
  intro b c d e f others happly
  refine Option.eq_none_iff_forall_ne_some.2 fun replacement hsome => ?_
  rw [← (hother _ _ _ _ _ _ _ hsome).1] at himage
  have hprefix : [b, c, d, e, f] <+: rest :=
    hrule.prefix_of_prefix_apply (not_agree_of_beginsIn himage).2 ⟨others, happly.symm⟩
  obtain ⟨others', hrest⟩ := hprefix
  rw [h b c d e f others' hrest.symm] at hsome
  cases hsome

/-- A pass leaves nothing to the rule itself, and brings nothing about for a rule whose redexes are
apart from what it brings about. -/
theorem free_apply (hrule : rule.HasShape shape) (hother : other.HasShape shape')
    (hapart : Apart shape.image shape'.redex) {tokens : List Token}
    (h : other = rule ∨ other.Free tokens) : other.Free (rule.apply tokens) := by
  fun_induction Rule.apply rule tokens with
  | case1 => trivial
  | case2 a b c d e f rest replacement hsome ih =>
    refine hother.free_append ?_ (ih (h.imp_right fun hfree => hfree.2.2.2.2.2.2))
    rw [(hrule _ _ _ _ _ _ _ hsome).2]
    exact hapart.2
  | case3 a b c d e f rest hnone ih =>
    refine ⟨hrule.passesOver_apply hother hapart.1 ?_, ih (h.imp_right And.right)⟩
    obtain rfl | hfree := h
    · rintro _ _ _ _ _ _ ⟨⟩
      exact hnone
    · exact hfree.1
  | case4 a rest hshort ih =>
    refine ⟨hrule.passesOver_apply hother hapart.1 ?_, ih (h.imp_right And.right)⟩
    exact fun b c d e f others hrest => (hshort b c d e f others hrest).elim

end HasShape

end Rule

/-! ## One pass of each rule -/

theorem reduceAll_cons (rule : Rule) (rules : List Rule) (tokens : List Token) :
    reduceAll (rule :: rules) tokens = reduceAll rules (rule.apply tokens) := rfl

theorem Rule.HasShape.free_reduceAll {other : Rule} {shape : Shape}
    (hother : other.HasShape shape) {entries : List (Rule × Shape)}
    (hshapes : ∀ entry ∈ entries, entry.1.HasShape entry.2)
    (hapart : ∀ entry ∈ entries, Apart entry.2.image shape.redex) {tokens : List Token}
    (h : other.Free tokens) : other.Free (reduceAll (entries.map Prod.fst) tokens) := by
  induction entries generalizing tokens with
  | nil => exact h
  | cons entry entries ih =>
    obtain ⟨hshape, hshapes⟩ := List.forall_mem_cons.1 hshapes
    obtain ⟨hentry, hapart⟩ := List.forall_mem_cons.1 hapart
    exact ih hshapes hapart (hshape.free_apply hother hentry (.inr h))

/-- After a pass of each rule none has anything to replace, if no rule brings about what it or an
earlier one replaces. -/
theorem free_reduceAll {entries : List (Rule × Shape)}
    (hshapes : ∀ entry ∈ entries, entry.1.HasShape entry.2)
    (hself : ∀ entry ∈ entries, Apart entry.2.image entry.2.redex)
    (horder : entries.Pairwise fun entry later => Apart later.2.image entry.2.redex)
    (tokens : List Token) :
    ∀ entry ∈ entries, entry.1.Free (reduceAll (entries.map Prod.fst) tokens) := by
  induction entries generalizing tokens with
  | nil => exact List.forall_mem_nil _
  | cons entry entries ih =>
    obtain ⟨hshape, hshapes⟩ := List.forall_mem_cons.1 hshapes
    obtain ⟨hentry, hself⟩ := List.forall_mem_cons.1 hself
    obtain ⟨hlater, horder⟩ := List.pairwise_cons.1 horder
    rw [List.map_cons, reduceAll_cons]
    have hfree : entry.1.Free (entry.1.apply tokens) :=
      hshape.free_apply hshape hentry (.inl rfl)
    exact List.forall_mem_cons.2
      ⟨hshape.free_reduceAll hshapes hlater hfree, ih hshapes hself horder _⟩

theorem free_reduced (tokens : List Token) {rule : Rule}
    (h : rule ∈ sugarRules ++ [answeredRule]) : rule.Free (reduced tokens) := by
  have hself : ∀ shape ∈ shapedRules.map Prod.snd, Apart shape.image shape.redex := by decide
  have horder : (shapedRules.map Prod.snd).Pairwise fun shape later =>
      Apart later.image shape.redex := by decide
  obtain ⟨shape, hmem⟩ := exists_shape_of_mem h
  exact free_reduceAll (fun _ => hasShape_of_mem) (List.forall_mem_map.1 hself)
    (List.pairwise_map.1 horder) tokens _ hmem

/-- The reduced tokens have no redex left. -/
theorem isNormal_reduced (tokens : List Token) : IsNormal (reduced tokens) := by
  have hfree (rule : Rule) (hrule : rule ∈ sugarRules ++ [answeredRule]) :
      rule.Free (reduced tokens) := free_reduced tokens hrule
  generalize reduced tokens = result at hfree
  intro next hstep
  induction hstep with
  | here hrule hsome rest =>
    rw [(hfree _ hrule).1 _ _ _ _ _ rest rfl] at hsome
    cases hsome
  | there token _ ih => exact ih fun rule hrule => (hfree rule hrule).2

/-! ## Passes as steps -/

theorem steps_apply {rule : Rule} (hrule : rule ∈ sugarRules ++ [answeredRule])
    (tokens : List Token) : ReflTransGen Step tokens (rule.apply tokens) := by
  fun_induction Rule.apply rule tokens with
  | case1 => exact .refl
  | case2 a b c d e f rest replacement hsome ih =>
    exact .head (.here hrule hsome rest)
      (ih.lift (replacement ++ ·) fun _ _ hstep => hstep.append replacement)
  | case3 a b c d e f rest hnone ih => exact ih.lift (a :: ·) fun _ _ => .there a
  | case4 a rest hshort ih => exact ih.lift (a :: ·) fun _ _ => .there a

theorem steps_reduceAll {rules : List Rule} (h : rules ⊆ sugarRules ++ [answeredRule])
    (tokens : List Token) : ReflTransGen Step tokens (reduceAll rules tokens) := by
  induction rules generalizing tokens with
  | nil => exact .refl
  | cons rule rules ih =>
    obtain ⟨hrule, hrules⟩ := List.cons_subset.1 h
    exact (steps_apply hrule tokens).trans (ih hrules (rule.apply tokens))

/-! ## Steps that meet again -/

/-- Where no redex may begin, a step happens further behind. -/
theorem Step.behind {front rest next : List Token}
    (hfront : ∀ shape ∈ shapedRules.map Prod.snd,
      beginsIn shape.redex (front.map Token.shape) = false)
    (h : Step (front ++ rest) next) : ∃ next', next = front ++ next' ∧ Step rest next' := by
  induction front generalizing next with
  | nil => exact ⟨next, rfl, h⟩
  | cons token front ih =>
    have hpasses {rule : Rule} (hrule : rule ∈ sugarRules ++ [answeredRule]) :
        rule.PassesOver token (front ++ rest) := by
      obtain ⟨shape, hmem⟩ := exists_shape_of_mem hrule
      have hshape := hfront shape (List.mem_map_of_mem hmem)
      exact (hasShape_of_mem hmem).passesOver_append (not_agree_of_beginsIn hshape).1 rest
    have hothers : ∀ shape ∈ shapedRules.map Prod.snd,
        beginsIn shape.redex (front.map Token.shape) = false :=
      fun shape hmem => (not_agree_of_beginsIn (hfront shape hmem)).2
    generalize htokens : front ++ rest = tokens at hpasses
    rw [List.cons_append, htokens] at h
    cases h with
    | here hrule hsome =>
      rw [hpasses hrule _ _ _ _ _ _ rfl] at hsome
      cases hsome
    | there _ hstep =>
      obtain ⟨next', rfl, hrest⟩ := ih hothers (htokens ▸ hstep)
      exact ⟨next', rfl, hrest⟩

/-- The tokens that are replaced determine their replacement. -/
theorem replacement_unique {rule other : Rule} (hrule : rule ∈ sugarRules ++ [answeredRule])
    (hother : other ∈ sugarRules ++ [answeredRule]) {a b c d e f : Token}
    {replacement replacement' : List Token} (h : rule a b c d e f = some replacement)
    (h' : other a b c d e f = some replacement') : replacement = replacement' := by
  obtain ⟨shape, hmem⟩ := exists_shape_of_mem hrule
  obtain ⟨shape', hmem'⟩ := exists_shape_of_mem hother
  have hredex : shape.redex = shape'.redex :=
    (hasShape_of_mem hmem _ _ _ _ _ _ _ h).1.symm.trans
      (hasShape_of_mem hmem' _ _ _ _ _ _ _ h').1
  have hnodup : (shapedRules.map fun entry => entry.2.redex).Nodup := by decide
  obtain ⟨rfl, -⟩ := Prod.mk.inj (List.inj_on_of_nodup_map hnodup hmem hmem' hredex)
  exact Option.some.inj (h.symm.trans h')

/-- No redex begins behind the first token of another one. -/
theorem Step.behind_redex {rule : Rule} (hrule : rule ∈ sugarRules ++ [answeredRule])
    {a b c d e f : Token} {replacement : List Token} (h : rule a b c d e f = some replacement)
    {rest next : List Token} (hstep : Step (b :: c :: d :: e :: f :: rest) next) :
    ∃ next', next = b :: c :: d :: e :: f :: next' ∧ Step rest next' := by
  have hinside : ∀ shape ∈ shapedRules.map Prod.snd, ∀ other ∈ shapedRules.map Prod.snd,
      beginsIn other.redex shape.redex.tail = false := by decide
  obtain ⟨shape, hmem⟩ := exists_shape_of_mem hrule
  have hredex := (hasShape_of_mem hmem _ _ _ _ _ _ _ h).1
  have hfront := hinside shape (List.mem_map_of_mem hmem)
  rw [← hredex] at hfront
  exact @Step.behind [b, c, d, e, f] rest next hfront hstep

/-- Two steps from the same tokens are the same, or a step from each leads to the same tokens. -/
theorem Step.diamond {tokens next other : List Token} (h : Step tokens next)
    (h' : Step tokens other) : next = other ∨ ∃ last, Step next last ∧ Step other last := by
  induction h generalizing other with
  | here hrule hsome rest =>
    cases h' with
    | here hrule' hsome' =>
      exact .inl (by rw [replacement_unique hrule hrule' hsome hsome'])
    | there _ hstep =>
      obtain ⟨rest', rfl, hrest⟩ := hstep.behind_redex hrule hsome
      exact .inr ⟨_, hrest.append _, .here hrule hsome rest'⟩
  | there token hstep ih =>
    cases h' with
    | here hrule' hsome' =>
      obtain ⟨rest', rfl, hrest⟩ := hstep.behind_redex hrule' hsome'
      exact .inr ⟨_, .here hrule' hsome' rest', hrest.append _⟩
    | there _ hstep' =>
      obtain rfl | ⟨last, hnext, hother⟩ := ih hstep'
      · exact .inl rfl
      · exact .inr ⟨token :: last, .there token hnext, .there token hother⟩

theorem steps_join {tokens next other : List Token} (h : ReflTransGen Step tokens next)
    (h' : ReflTransGen Step tokens other) : Join (ReflTransGen Step) next other := by
  refine Relation.church_rosser (fun tokens next other hnext hother => ?_) h h'
  obtain rfl | ⟨last, hlast, hlast'⟩ := hnext.diamond hother
  · exact ⟨next, .refl, .refl⟩
  · exact ⟨last, .single hlast, .single hlast'⟩

theorem IsNormal.eq_of_steps {tokens next : List Token} (h : IsNormal tokens)
    (hsteps : ReflTransGen Step tokens next) : tokens = next := by
  obtain heq | ⟨second, hstep, -⟩ := hsteps.cases_head
  · exact heq
  · exact absurd hstep (h second)

/-! ## The normal form -/

/-- A replacement is shorter than what it replaces. -/
theorem Step.length_lt {tokens next : List Token} (h : Step tokens next) :
    next.length < tokens.length := by
  have hshorter : ∀ shape ∈ shapedRules.map Prod.snd, shape.image.length < 6 := by decide
  induction h with
  | here hrule hsome rest =>
    obtain ⟨shape, hmem⟩ := exists_shape_of_mem hrule
    have himage := congrArg List.length (hasShape_of_mem hmem _ _ _ _ _ _ _ hsome).2
    have hlength : shape.image.length < 6 := hshorter shape (List.mem_map_of_mem hmem)
    rw [List.length_map] at himage
    simp only [List.length_append, List.length_cons, himage]
    omega
  | there token _ ih => exact Nat.succ_lt_succ ih

theorem wellFounded_step : WellFounded fun next tokens => Step tokens next :=
  Subrelation.wf Step.length_lt (measure List.length).wf

/-- Every sequence of steps ends. Where it cannot go on it has come to the reduced tokens, whatever
steps were taken; to reduce these once more changes nothing. -/
theorem reduced_unique (tokens : List Token) :
    Acc (fun next tokens => Step tokens next) tokens ∧
    (∀ result, ReflTransGen Step tokens result ∧ IsNormal result ↔ result = reduced tokens) ∧
    reduced (reduced tokens) = reduced tokens := by
  have hunique (result : List Token) :
      ReflTransGen Step tokens result ∧ IsNormal result ↔ result = reduced tokens := by
    constructor
    · rintro ⟨hsteps, hnormal⟩
      obtain ⟨last, hlast, hlast'⟩ :=
        steps_join hsteps (steps_reduceAll (List.Subset.refl _) tokens)
      exact (hnormal.eq_of_steps hlast).trans ((isNormal_reduced tokens).eq_of_steps hlast').symm
    · rintro rfl
      exact ⟨steps_reduceAll (List.Subset.refl _) tokens, isNormal_reduced tokens⟩
  refine ⟨wellFounded_step.apply tokens, hunique, ?_⟩
  have hsteps : ReflTransGen Step (reduced tokens) (reduced (reduced tokens)) :=
    steps_reduceAll (List.Subset.refl _) _
  exact ((isNormal_reduced tokens).eq_of_steps hsteps).symm

end Questionnaire.Relevance
