import Questionnaire.Proofs.Relevance.Operators
import Questionnaire.Proofs.Relevance.Steps

/-!
# Conditions in one language

What a condition says in a language does not depend on what the survey says in other languages, nor
on which other languages the condition is put into. Questions are looked up by name and answers by
identifier, so the groups around the questions do not count either. The others only show in how
long a language that is done stays at its last text.

Main definitions:

* `Question.ReadsAs`, `Forest.ReadsAs`: questions and items that are the same in one language.
* `SameUpToLast`: lists that are the same but for how often the last entry is repeated.

Results:

* `Reader.render_readsAs`: a text at any stage.
* `phrase_readsAs`: the text and the steps of a condition.
-/

namespace Questionnaire

/-! ## Items in one language -/

/-- The answers have the same identifier and the same label in the language. -/
structure Answer.ReadsAs (language : Language) (answer other : Answer) : Prop where
  id : other.id = answer.id
  label : other.label.text? language = answer.label.text? language

/-- The questions and their answers are the same in the language. -/
structure Question.ReadsAs (language : Language) (question other : Question) : Prop where
  name : other.name = question.name
  type : other.type.type = question.type.type
  label : other.label.text? language = question.label.text? language
  answers : List.Forall₂ (Answer.ReadsAs language) question.answers other.answers

/-- The questions are the same in the language, one by one, however they are grouped. -/
def Forest.ReadsAs (language : Language) (items others : Forest) : Prop :=
  List.Forall₂ (Question.ReadsAs language) items.questions others.questions

theorem Question.ReadsAs.rel_answer? {language : Language} {question other : Question}
    (h : question.ReadsAs language other) (id : String) :
    Option.Rel (Answer.ReadsAs language) (question.answer? id) (other.answer? id) :=
  rel_find? (fun answer other hanswer => by rw [hanswer.id]) h.answers

theorem Forest.ReadsAs.rel_question? {language : Language} {items others : Forest}
    (h : items.ReadsAs language others) (name : String) :
    Option.Rel (Question.ReadsAs language) (items.question? name) (others.question? name) :=
  rel_find? (fun question other hquestion => by rw [hquestion.name]) h

namespace Relevance

/-! ## Texts in one language -/

section

variable {language : Language} {items others : Forest} (options : Options)

namespace Reader

theorem questionLabel_readsAs {question other : Question} (h : question.ReadsAs language other)
    (name : String) :
    questionLabel ⟨items, language, options⟩ name question =
      questionLabel ⟨others, language, options⟩ name other := by
  unfold questionLabel
  rw [h.label]

theorem answerSegment_readsAs {question other : Question} (h : question.ReadsAs language other)
    (id : String) :
    answerSegment ⟨items, language, options⟩ question id =
      answerSegment ⟨others, language, options⟩ other id := by
  have hanswer := h.rel_answer? id
  unfold answerSegment
  generalize question.answer? id = found at hanswer
  generalize other.answer? id = found' at hanswer
  cases hanswer with
  | none => rfl
  | some hanswer => simp only [hanswer.label]

theorem isBoolean_readsAs {question other : Question} (h : question.ReadsAs language other) :
    isBoolean ⟨items, language, options⟩ question =
      isBoolean ⟨others, language, options⟩ other := by
  unfold isBoolean
  rw [h.type, h.name]

variable (h : items.ReadsAs language others)

include h

theorem questionSegment_readsAs (name : String) :
    questionSegment ⟨items, language, options⟩ name =
      questionSegment ⟨others, language, options⟩ name := by
  have hquestion := h.rel_question? name
  unfold questionSegment
  dsimp only
  generalize items.question? name = found at hquestion
  generalize others.question? name = found' at hquestion
  cases hquestion with
  | none => rfl
  | some hquestion => exact questionLabel_readsAs options hquestion name

theorem comparisonSegments_readsAs (name : String) (operator : Comparison) (value : String) :
    comparisonSegments ⟨items, language, options⟩ name operator value =
      comparisonSegments ⟨others, language, options⟩ name operator value := by
  have hquestion := h.rel_question? name
  unfold comparisonSegments
  dsimp only
  generalize items.question? name = found at hquestion
  generalize others.question? name = found' at hquestion
  cases hquestion with
  | none => rfl
  | some hquestion =>
    dsimp only
    rw [questionLabel_readsAs options hquestion, answerSegment_readsAs options hquestion,
      isBoolean_readsAs options hquestion, hquestion.type]
    rfl

/-- Items that are the same in a language are put into the same words there, at every stage. -/
theorem render_readsAs :
    render ⟨items, language, options⟩ = render ⟨others, language, options⟩ :=
  render_congr (questionSegment_readsAs options h) (comparisonSegments_readsAs options h)

end Reader

theorem readerSteps_readsAs (h : items.ReadsAs language others) (tokens : List Token) :
    readerSteps ⟨items, language, options⟩ tokens =
      readerSteps ⟨others, language, options⟩ tokens := by
  unfold readerSteps
  rw [Reader.render_readsAs options h]

end

/-! ## Steps in one language -/

/-- The lists are the same, but for how often their last entry is repeated. -/
def SameUpToLast {α : Type} (entries others : List α) : Prop :=
  ∃ front last m n, entries = front ++ List.replicate (m + 1) last ∧
    others = front ++ List.replicate (n + 1) last

theorem sameUpToLast_append {α : Type} {entries : List α} {last : α}
    (h : entries.getLast? = some last) (m n : Nat) :
    SameUpToLast (entries ++ List.replicate m last) (entries ++ List.replicate n last) := by
  obtain ⟨front, rfl⟩ := List.getLast?_eq_some_iff.1 h
  refine ⟨front, last, m, n, ?_, ?_⟩ <;> rw [List.append_assoc, List.replicate_succ] <;> rfl

/-- A language goes through its own steps, and waits at the last of them for the others. -/
theorem map_text?_steps_phrase (items : Forest) {languages : List Language} (options : Options)
    {expression : String} {language : Language} (hworded : IsWorded expression)
    (hm : language ∈ languages) :
    ∃ n, (phrase items languages options expression).steps.map (·.text? language) =
      some (Text.trim expression) ::
          (readerSteps ⟨items, language, options⟩ (tokenize (Text.trim expression))).map some ++
        List.replicate n (readerSteps ⟨items, language, options⟩
          (tokenize (Text.trim expression))).getLast? := by
  have hsteps : (phrase items languages options expression).steps.map (·.text? language) =
      (stepTexts items languages options expression).map fun text => some (text language) := by
    rw [steps_phrase items options hworded (List.ne_nil_of_mem hm), List.map_map]
    exact List.map_congr_left fun text _ => Localized.text?_ofTexts text hm
  have hlast := getLast?_readerSteps ⟨items, language, options⟩ (tokenize (Text.trim expression))
  rw [hsteps, hlast, readerSteps_eq, stepTexts]
  generalize tokenize (Text.trim expression) = tokens
  by_cases hall : ∀ language ∈ languages, EndsInPeriod (lastRendering items options tokens language)
  · refine ⟨0, ?_⟩
    simp only [if_pos hall, if_pos (hall language hm), List.append_nil, List.map_cons,
      List.map_map, List.replicate_zero]
    rfl
  by_cases hperiod : EndsInPeriod (lastRendering items options tokens language)
  · refine ⟨1, ?_⟩
    simp only [if_neg hall, if_pos hperiod, List.append_nil, List.map_cons, List.map_append,
      List.map_map]
    rfl
  · refine ⟨0, ?_⟩
    simp only [if_neg hall, if_neg hperiod, List.append_nil, List.map_cons, List.map_append,
      List.map_map, List.replicate_zero]
    rfl

/-- An expression says the same in a language, and goes through the same steps there, as long as the
questions are the same in this language. A language that is done may wait for others. -/
theorem phrase_readsAs {items others : Forest} {language : Language}
    {languages otherLanguages : List Language} (h : items.ReadsAs language others)
    (hm : language ∈ languages) (hother : language ∈ otherLanguages) (options : Options)
    (expression : String) :
    (phrase items languages options expression).text.text? language =
        (phrase others otherLanguages options expression).text.text? language ∧
      SameUpToLast ((phrase items languages options expression).steps.map (·.text? language))
        ((phrase others otherLanguages options expression).steps.map (·.text? language)) := by
  by_cases hworded : IsWorded expression
  · have hlast := getLast?_readerSteps ⟨others, language, options⟩
      (tokenize (Text.trim expression))
    obtain ⟨m, hsteps⟩ := map_text?_steps_phrase items options hworded hm
    obtain ⟨n, hothers⟩ := map_text?_steps_phrase others options hworded hother
    rw [readerSteps_readsAs options h] at hsteps
    constructor
    · rw [text?_phrase hworded hm, text?_phrase hworded hother, Reader.render_readsAs options h]
    · rw [hsteps, hothers]
      refine sameUpToLast_append ?_ m n
      rw [List.getLast?_cons, List.getLast?_map, hlast]
      rfl
  · have hconstant {given : List Language} (hgiven : language ∈ given) :
        (Localized.constant given alwaysRelevant).text? language = some alwaysRelevant := by
      rw [Localized.constant_eq, Localized.text?_ofTexts _ hgiven]
    rw [phrase_of_not_isWorded items languages options hworded,
      phrase_of_not_isWorded others otherLanguages options hworded]
    refine ⟨(hconstant hm).trans (hconstant hother).symm, [], some alwaysRelevant, 0, 0, ?_, ?_⟩
    · exact congrArg ([·]) (hconstant hm)
    · exact congrArg ([·]) (hconstant hother)

/-! ## A question in three languages -/

def english : Language := .ofLabel "English"

def french : Language := .ofLabel "French"

def german : Language := .ofLabel "German"

/-- A survey in English and French. -/
def smokerItems : Forest :=
  .question { Reader.calculation "smokes" with
    type := ⟨.selectOne, some (.selection "yesNo" false)⟩
    label := ⟨[(english, some "Do you smoke?"), (french, some "Fumez-vous ?")]⟩
    answers := [⟨"yes", ⟨[(english, some "Yes"), (french, some "Oui")]⟩, []⟩] } .nil

/-- The same question in French and German, in a group and with a hint. -/
def groupedSmokerItems : Forest :=
  .group ⟨.basic, some "habits", .empty, none, .ofSource none⟩
    (.question { Reader.calculation "smokes" with
      type := ⟨.selectOne, some (.selection "answers" true)⟩
      label := ⟨[(german, some "Rauchen Sie?"), (french, some "Fumez-vous ?")]⟩
      hint := .constant [german] "Auch gelegentlich"
      answers := [⟨"yes", ⟨[(french, some "Oui")]⟩, []⟩] } .nil) .nil

theorem phrase_readsAs_smokerItems :
    smokerItems.ReadsAs french groupedSmokerItems ∧ french ∈ [english, french] ∧
      french ∈ [french, german] ∧
      (phrase smokerItems [english, french] {} "$\x7bsmokes\x7d = 'yes'").text.text? french =
        (phrase groupedSmokerItems [french, german] {} "$\x7bsmokes\x7d = 'yes'").text.text?
          french := by
  have hitems : smokerItems.ReadsAs french groupedSmokerItems :=
    .cons ⟨rfl, rfl, by decide +kernel, .cons ⟨rfl, by decide +kernel⟩ .nil⟩ .nil
  have hm : french ∈ [english, french] := List.mem_cons_of_mem _ List.mem_cons_self
  have hother : french ∈ [french, german] := List.mem_cons_self
  exact ⟨hitems, hm, hother, (phrase_readsAs hitems hm hother {} _).1⟩

end Relevance

end Questionnaire
