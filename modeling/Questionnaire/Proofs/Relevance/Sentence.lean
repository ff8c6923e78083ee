import Questionnaire.Proofs.Language.FirstOccurrences
import Questionnaire.Relevance.Phrasing

/-!
# Sentences

The text of an expression in a language is where its steps in this language end: the reduced tokens
in words, with a period behind them. Each language takes twelve steps from the tokens on, and one
more if its last text does not end in a period. The others wait for it at their last texts, which
end in a period already. So how many steps other languages need does not matter.

Main definitions:

* `sentence`: a text with a period at its end.
* `rendering`, `renderings`: what the languages make of the tokens, but for the period.
* `stepTexts`, `finalText`: the texts of the steps, and the one where they end.

Results:

* `getLast?_readerSteps`: the last step of a language.
* `steps_phrase`: the list of the steps.
* `text_phrase`, `text?_phrase`: the text of an expression in each of its languages.
-/

namespace Questionnaire

/-- The text ends in a period. -/
def EndsInPeriod (text : String) : Prop := text.toList.getLast? = some '.'

instance (text : String) : Decidable (EndsInPeriod text) := inferInstanceAs (Decidable (_ = _))

namespace Relevance

/-- The text with a period at its end. -/
def sentence (text : String) : String :=
  if text.toList.getLast? = some '.' then text else text ++ "."

theorem sentence_of_endsInPeriod {text : String} (h : EndsInPeriod text) : sentence text = text :=
  if_pos h

theorem sentence_of_not_endsInPeriod {text : String} (h : ¬ EndsInPeriod text) :
    sentence text = text ++ "." := if_neg h

theorem endsInPeriod_sentence (text : String) : EndsInPeriod (sentence text) := by
  unfold sentence
  split
  · assumption
  · unfold EndsInPeriod
    rw [String.toList_append, List.getLast?_append]
    rfl

/-! ## The steps of one language -/

section

variable (items : Forest) (options : Options)

/-- What the language makes of the tokens at a stage. -/
def rendering (stage : Stage) (tokens : List Token) (language : Language) : String :=
  (Reader.mk items language options).render stage tokens

/-- The texts of the tokens and of what each rule makes of them, then those of the stages. -/
def renderings (tokens : List Token) : List (Language → String) :=
  (reductions (sugarRules ++ [answeredRule]) tokens).map (rendering items options .tokens)
    ++ Stage.worded.map fun stage => rendering items options stage (reduced tokens)

/-- The last text of a language, before it is made a sentence. -/
def lastRendering (tokens : List Token) : Language → String :=
  rendering items options .connectives (reduced tokens)

end

theorem finished_eq {texts : List String} {last : String} (h : texts.getLast? = some last) :
    finished texts = texts ++ if EndsInPeriod last then [] else [sentence last] := by
  unfold finished
  rw [h]
  show (if EndsInPeriod last then texts else _) = _
  split
  · rw [List.append_nil]
  · rename_i hperiod
    rw [sentence_of_not_endsInPeriod hperiod]

theorem getLast?_finished {texts : List String} {last : String} (h : texts.getLast? = some last) :
    (finished texts).getLast? = some (sentence last) := by
  rw [finished_eq h]
  split
  · rename_i hperiod
    rw [List.append_nil, h, sentence_of_endsInPeriod hperiod]
  · exact List.getLast?_concat

theorem getLast?_readerSteps (reader : Reader) (tokens : List Token) :
    (readerSteps reader tokens).getLast? =
      some (sentence (reader.render .connectives (reduced tokens))) := by
  refine getLast?_finished ?_
  rw [List.getLast?_append]
  rfl

theorem readerSteps_eq (items : Forest) (options : Options) (tokens : List Token)
    (language : Language) :
    readerSteps ⟨items, language, options⟩ tokens =
      (renderings items options tokens).map (· language) ++
        if EndsInPeriod (lastRendering items options tokens language) then []
        else [sentence (lastRendering items options tokens language)] := by
  have hrenderings : (renderings items options tokens).map (· language) =
      (reductions (sugarRules ++ [answeredRule]) tokens).map
          ((Reader.mk items language options).render .tokens) ++
        Stage.worded.map fun stage =>
          (Reader.mk items language options).render stage (reduced tokens) := by
    rw [renderings, List.map_append, List.map_map, List.map_map]
    rfl
  rw [hrenderings]
  refine finished_eq ?_
  rw [List.getLast?_append]
  rfl

/-! ## The steps in all languages -/

theorem stepAt_eq {languages : List Language} {steps : Language → List String}
    {text : Language → String} {index : Nat}
    (h : ∀ language ∈ languages,
      (steps language)[index]?.or (steps language).getLast? = some (text language)) :
    stepAt (languages.map fun language => (language, steps language)) index =
      .ofTexts languages text := by
  rw [stepAt, List.map_map, ← Localized.ofList_map]
  refine congrArg Localized.ofList (List.map_congr_left fun language hm => ?_)
  exact congrArg (Prod.mk language) (h language hm)

theorem map_stepAt {languages : List Language} {steps : Language → List String}
    {texts : List (Language → String)}
    (h : ∀ language ∈ languages, texts.map (· language) <+: steps language) :
    (List.range texts.length).map
        (stepAt (languages.map fun language => (language, steps language))) =
      texts.map (.ofTexts languages) := by
  refine List.ext_getElem (by simp) fun index hindex _ => ?_
  have hindex : index < texts.length := by simpa using hindex
  rw [List.getElem_map, List.getElem_map, List.getElem_range]
  refine stepAt_eq fun language hm => ?_
  obtain ⟨rest, hrest⟩ := h language hm
  rw [← hrest, List.getElem?_append_left (by simpa using hindex), List.getElem?_map,
    List.getElem?_eq_getElem hindex]
  rfl

/-! ## The longest run of steps -/

theorem le_foldl_max {n : Nat} {ns : List Nat} (start : Nat) (h : n ≤ start ∨ n ∈ ns) :
    n ≤ ns.foldl max start := by
  induction ns generalizing start with
  | nil => simpa using h
  | cons first ns ih =>
    rw [List.foldl_cons]
    refine ih _ ?_
    obtain h | h := h
    · exact .inl (Nat.le_trans h (Nat.le_max_left _ _))
    · obtain rfl | h := List.mem_cons.1 h
      · exact .inl (Nat.le_max_right _ _)
      · exact .inr h

theorem length_le_stepCount {texts : List (Language × List String)}
    {entry : Language × List String} (h : entry ∈ texts) :
    entry.2.length ≤ stepCount texts :=
  le_foldl_max 0 (.inr (List.mem_map.2 ⟨entry, h, rfl⟩))

theorem foldl_max_le {bound : Nat} {ns : List Nat} {start : Nat} (hstart : start ≤ bound)
    (h : ∀ n ∈ ns, n ≤ bound) : ns.foldl max start ≤ bound := by
  induction ns generalizing start with
  | nil => exact hstart
  | cons first ns ih =>
    obtain ⟨hfirst, hns⟩ := List.forall_mem_cons.1 h
    exact ih (Nat.max_le.2 ⟨hstart, hfirst⟩) hns

theorem stepCount_eq {languages : List Language} {steps : Language → List String} {count : Nat}
    (hle : ∀ language ∈ languages, (steps language).length ≤ count)
    (heq : ∃ language ∈ languages, (steps language).length = count) :
    stepCount (languages.map fun language => (language, steps language)) = count := by
  refine Nat.le_antisymm (foldl_max_le (Nat.zero_le _) fun n hn => ?_) ?_
  · rw [List.map_map] at hn
    obtain ⟨language, hm, rfl⟩ := List.mem_map.1 hn
    exact hle language hm
  · obtain ⟨language, hm, rfl⟩ := heq
    exact @length_le_stepCount _ (language, steps language) (List.mem_map.2 ⟨language, hm, rfl⟩)

section

-- All languages go through the same number of texts. Those whose last one is not a sentence yet
-- make it one in a further step.
variable {languages : List Language} {steps : Language → List String}
  {texts : List (Language → String)} {last : Language → String}
  (hsteps : ∀ language, steps language = texts.map (· language) ++
    if EndsInPeriod (last language) then [] else [sentence (last language)])

include hsteps

theorem stepCount_of_periods (hlanguages : languages ≠ []) :
    stepCount (languages.map fun language => (language, steps language)) =
      texts.length + if ∀ language ∈ languages, EndsInPeriod (last language) then 0 else 1 := by
  have hlength (language : Language) : (steps language).length =
      texts.length + if EndsInPeriod (last language) then 0 else 1 := by
    rw [hsteps, List.length_append, List.length_map]
    split <;> rfl
  by_cases hall : ∀ language ∈ languages, EndsInPeriod (last language)
  · obtain ⟨first, hfirst⟩ := List.exists_mem_of_ne_nil _ hlanguages
    have hsame : ∀ language ∈ languages, (steps language).length = texts.length := by
      intro language hm
      rw [hlength, if_pos (hall language hm), Nat.add_zero]
    rw [if_pos hall, Nat.add_zero]
    exact stepCount_eq (fun language hm => Nat.le_of_eq (hsame language hm))
      ⟨first, hfirst, hsame first hfirst⟩
  · obtain ⟨first, hfirst, hperiod⟩ : ∃ language ∈ languages, ¬ EndsInPeriod (last language) := by
      simpa using hall
    rw [if_neg hall]
    refine stepCount_eq (fun language _ => ?_) ⟨first, hfirst, ?_⟩
    · rw [hlength]
      split <;> omega
    · rw [hlength, if_neg hperiod]

/-- A language that has its period already stays at its last text, which is its sentence. -/
theorem stepAt_of_periods
    (hlast : ∀ language, (steps language).getLast? = some (sentence (last language))) :
    stepAt (languages.map fun language => (language, steps language)) texts.length =
      .ofTexts languages fun language => sentence (last language) := by
  refine stepAt_eq fun language _ => ?_
  rw [hlast, hsteps, List.getElem?_append_right (by simp), List.length_map, Nat.sub_self]
  split <;> rfl

theorem map_stepAt_of_periods (hlanguages : languages ≠ [])
    (hlast : ∀ language, (steps language).getLast? = some (sentence (last language))) :
    (List.range (stepCount (languages.map fun language => (language, steps language)))).map
        (stepAt (languages.map fun language => (language, steps language))) =
      (texts ++ if ∀ language ∈ languages, EndsInPeriod (last language) then []
        else [fun language => sentence (last language)]).map (.ofTexts languages) := by
  have htexts : (List.range texts.length).map
      (stepAt (languages.map fun language => (language, steps language))) =
        texts.map (.ofTexts languages) :=
    map_stepAt fun language _ => ⟨_, (hsteps language).symm⟩
  rw [stepCount_of_periods hsteps hlanguages]
  split
  · rw [Nat.add_zero, htexts, List.append_nil]
  · rw [List.range_succ, List.map_append, htexts, List.map_singleton,
      stepAt_of_periods hsteps hlast, List.map_append, List.map_singleton]

end

/-! ## The steps of an expression -/

/-- The expression is put into words, rather than said to be always relevant. -/
def IsWorded (expression : String) : Prop :=
  Text.trim expression ≠ "" ∧ Text.trim expression ≠ "true()"

instance (expression : String) : Decidable (IsWorded expression) :=
  inferInstanceAs (Decidable (_ ∧ _))

theorem not_isWorded_iff {expression : String} :
    ¬ IsWorded expression ↔ Text.trim expression = "" ∨ Text.trim expression = "true()" := by
  rw [IsWorded, Decidable.not_and_iff_not_or_not, Decidable.not_not, Decidable.not_not]

/-- The texts of each step. If a language still lacks its period, the sentences come last. -/
def stepTexts (items : Forest) (languages : List Language) (options : Options)
    (expression : String) : List (Language → String) :=
  let tokens := tokenize (Text.trim expression)
  (fun _ => Text.trim expression) :: renderings items options tokens
    ++ if ∀ language ∈ languages, EndsInPeriod (lastRendering items options tokens language) then []
      else [fun language => sentence (lastRendering items options tokens language)]

section

variable (items : Forest) {languages : List Language} (options : Options) {expression : String}

theorem steps_phrase (hworded : IsWorded expression) (hlanguages : languages ≠ []) :
    (phrase items languages options expression).steps =
      (stepTexts items languages options expression).map (.ofTexts languages) := by
  have hsteps := map_stepAt_of_periods
    (readerSteps_eq items options (tokenize (Text.trim expression))) hlanguages
    fun language => getLast?_readerSteps ⟨items, language, options⟩ _
  rw [phrase, if_neg (by rw [not_or]; exact hworded), Localized.constant_eq]
  exact congrArg (List.cons _) hsteps

variable (languages) in
theorem phrase_of_not_isWorded (h : ¬ IsWorded expression) :
    phrase items languages options expression =
      ⟨.constant languages alwaysRelevant, [.constant languages alwaysRelevant]⟩ := by
  rw [phrase, if_pos (not_isWorded_iff.1 h)]

variable (languages expression) in
theorem getLast?_steps_phrase :
    (phrase items languages options expression).steps.getLast? =
      some (phrase items languages options expression).text := by
  unfold phrase
  dsimp only
  split
  · rfl
  · rw [List.getLast?_cons]
    rfl

/-! ## The text of an expression -/

/-- What a language is told in the end. -/
def finalText (expression : String) (language : Language) : String :=
  if IsWorded expression then
    sentence (lastRendering items options (tokenize (Text.trim expression)) language)
  else alwaysRelevant

theorem endsInPeriod_finalText (expression : String) (language : Language) :
    EndsInPeriod (finalText items options expression language) := by
  unfold finalText
  split
  · exact endsInPeriod_sentence _
  · decide

variable (languages expression) in
theorem getLast?_stepTexts :
    ∃ text, (stepTexts items languages options expression).getLast? = some text ∧
      ∀ language ∈ languages, text language =
        sentence (lastRendering items options (tokenize (Text.trim expression)) language) := by
  unfold stepTexts
  dsimp only
  split
  · rename_i hall
    refine ⟨lastRendering items options (tokenize (Text.trim expression)), ?_,
      fun language hm => (sentence_of_endsInPeriod (hall language hm)).symm⟩
    rw [List.append_nil]
    rfl
  · exact ⟨_, List.getLast?_concat, fun _ _ => rfl⟩

variable (languages expression) in
theorem text_phrase :
    (phrase items languages options expression).text =
      .ofTexts languages (finalText items options expression) := by
  by_cases hworded : IsWorded expression
  · by_cases hlanguages : languages = []
    · rw [hlanguages, phrase, if_neg (by rw [not_or]; exact hworded)]
      rfl
    · obtain ⟨text, htext, hlast⟩ := getLast?_stepTexts items languages options expression
      have hsteps := getLast?_steps_phrase items languages options expression
      rw [steps_phrase items options hworded hlanguages, List.getLast?_map, htext] at hsteps
      rw [← Option.some.inj hsteps]
      refine Localized.ofTexts_congr fun language hm => ?_
      rw [hlast language hm, finalText, if_pos hworded]
  · rw [phrase_of_not_isWorded items languages options hworded]
    refine (Localized.constant_eq languages alwaysRelevant).trans ?_
    exact Localized.ofTexts_congr fun language _ => (if_neg hworded).symm

end

section

variable {items : Forest} {languages : List Language} {options : Options} {expression : String}
  {language : Language}

/-- The text of an expression in each of its languages is the sentence that its reduced tokens make
up there. -/
theorem text?_phrase (hworded : IsWorded expression) (h : language ∈ languages) :
    (phrase items languages options expression).text.text? language =
      some (sentence ((Reader.mk items language options).render .connectives
        (reduced (tokenize (Text.trim expression))))) := by
  rw [text_phrase, Localized.text?_ofTexts _ h, finalText, if_pos hworded]
  rfl

/-- An expression that says nothing is always relevant, in each of its languages. -/
theorem text?_phrase_of_not_isWorded (h : ¬ IsWorded expression) (hm : language ∈ languages) :
    (phrase items languages options expression).text.text? language = some alwaysRelevant := by
  rw [text_phrase, Localized.text?_ofTexts _ hm, finalText, if_neg h]

end

end Relevance

end Questionnaire
