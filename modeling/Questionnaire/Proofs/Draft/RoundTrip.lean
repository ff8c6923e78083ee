import Questionnaire.Proofs.Assembly.Brackets
import Questionnaire.Proofs.Draft.Worksheets
import Questionnaire.Proofs.Survey.Conditions

/-!
# Round trip of a draft

A well-formed draft that is written into a workbook is converted without a fault. The items of the
survey are those of the draft: nested and ordered alike, with the same kinds, names, types, labels
and conditions, and every question has the choices of its list for answers.

Results:

* `Outline.exists_readAs`: the rows of an outline are read as a forest with this outline.
* `Survey.ofWorkbook_draft`: the round trip.
-/

namespace Questionnaire

/-! ## Answers -/

/-- The choices have a list of the name, with these answers and at least one choice. -/
def Offers (choices : Option ChoicesSheet) (list : String) (answers : List Answer) : Prop :=
  ∃ sheet, choices = some sheet ∧ sheet.list list ≠ [] ∧
    (sheet.list list).filterMap SurveyRow.answerOf? = answers

/-- The choices have the answers of the draft for every list that the outline refers to. -/
def OffersLists (choices : Option ChoicesSheet) (draft : Draft) (outline : Outline) : Prop :=
  ∀ list ∈ outline.lists, Offers choices list
    ((draft.choices.filter fun choice => some choice.list = some list).map ChoiceOutline.answer)

theorem readAnswers_draft {choices : Option ChoicesSheet} {draft : Draft} {type : TypeSpec}
    (h : type.WellFormed) (hoffers : ∀ list, type.list? = some list → Offers choices list
      ((draft.choices.filter fun choice => some choice.list = some list).map ChoiceOutline.answer))
    (row : SurveyRow) (shown : String) :
    row.readAnswers choices type shown = (draft.answers type, []) := by
  cases hanswers : type.type.requiresAnswers with
  | false => simp [SurveyRow.readAnswers, Draft.answers, hanswers]
  | true =>
    obtain ⟨list, hlist⟩ := h.exists_list hanswers
    obtain ⟨sheet, rfl, hne, hrows⟩ := hoffers list hlist
    obtain ⟨first, others, hcons⟩ := List.exists_cons_of_ne_nil hne
    rw [SurveyRow.readAnswers, if_pos hanswers, hlist, Draft.answers, if_pos hanswers, hlist,
      ← hrows]
    simp only [Option.getD_some, hcons]

/-! ## Lines -/

/-- The reading of a line, by the type that its text names. -/
theorem reading?_row (choices : Option ChoicesSheet) (options : Options) {line : Line}
    {type : TypeSpec} (htype : TypeSpec.parse line.type = .ok type) (number : UInt32) :
    (line.row number).reading? choices options = some
      (match type.type with
      | .beginGroup => ⟨.opening ((line.row number).group .basic none), []⟩
      | .beginRepeat => ⟨.opening ((line.row number).group .repeated none), []⟩
      | .endGroup | .endRepeat =>
        ⟨.ending ⟨(line.row number).reference, line.name, SurveyRow.shownType type line.type⟩, []⟩
      | _ =>
        let answered :=
          (line.row number).readAnswers choices type (SurveyRow.shownType type line.type)
        ⟨.question ((line.row number).question options type line.type none answered.1 answered.2),
          answered.2⟩) := by
  have hread : (line.row number).readType line.type = (type, []) := by
    rw [SurveyRow.readType, htype]
  have hage (shown : String) : (line.row number).readAgeGroup shown = (none, []) := rfl
  show some (SurveyRow.readingOf choices options (line.row number) line.type) = _
  simp only [SurveyRow.readingOf, hread, hage, List.append_nil, List.nil_append]
  rfl

theorem reading?_beginLine (choices : Option ChoicesSheet) (options : Options)
    (g : GroupOutline) (number : UInt32) : ∃ group : Group, group.outline = g ∧
      (g.beginLine.row number).reading? choices options = some ⟨.opening group, []⟩ := by
  refine ⟨(g.beginLine.row number).group g.kind none, rfl, ?_⟩
  have hparse : TypeSpec.parse g.beginLine.type = .ok ⟨g.kind.beginning, none⟩ := by
    refine TypeSpec.parse_key g.kind.beginning ?_
    cases g.kind <;> rfl
  rw [reading?_row choices options hparse]
  cases g.kind <;> rfl

theorem reading?_endLine (choices : Option ChoicesSheet) (options : Options) (kind : GroupKind)
    (languages : List String) (number : UInt32) : ∃ groupEnd,
      ((kind.endLine languages).row number).reading? choices options =
        some ⟨.ending groupEnd, []⟩ := by
  have hparse : TypeSpec.parse (kind.endLine languages).type = .ok ⟨kind.ending, none⟩ := by
    refine TypeSpec.parse_key kind.ending ?_
    cases kind <;> rfl
  rw [reading?_row choices options hparse]
  cases kind <;> exact ⟨_, rfl⟩

theorem reading?_line {choices : Option ChoicesSheet} {draft : Draft} (options : Options)
    {q : QuestionOutline} (h : q.type.WellFormed)
    (hoffers : ∀ list, q.type.list? = some list → Offers choices list
      ((draft.choices.filter fun choice => some choice.list = some list).map ChoiceOutline.answer))
    (number : UInt32) : ∃ question : Question, question.outline = q ∧
      question.answers = draft.answers question.type ∧
      (q.line.row number).reading? choices options = some ⟨.question question, []⟩ := by
  have hparse : TypeSpec.parse q.line.type = .ok q.type := h.parse_text
  have hanswers := readAnswers_draft h hoffers (q.line.row number)
    (SurveyRow.shownType q.type q.line.type)
  refine ⟨(q.line.row number).question options q.type q.line.type none (draft.answers q.type) [],
    rfl, rfl, ?_⟩
  rw [reading?_row choices options hparse, hanswers]
  have hgrouping := h.not_grouping
  split
  case h_5 => rfl
  all_goals
    rename_i heq
    rw [heq] at hgrouping
    cases hgrouping

/-! ## Outlines -/

theorem lineRows_cons (line : Line) (lines : List Line) (first : Nat) :
    lineRows (line :: lines) first =
      line.row (UInt32.ofNat (first + 1)) :: lineRows lines (first + 1) := rfl

theorem lineRows_append (front back : List Line) (first : Nat) :
    lineRows (front ++ back) first =
      lineRows front first ++ lineRows back (first + front.length) := by
  rw [lineRows, List.zipIdx_append, List.map_append]
  rfl

theorem Outline.exists_readAs {choices : Option ChoicesSheet} {draft : Draft} (options : Options)
    {languages : List String} {outline : Outline} (h : outline.WellFormed languages)
    (hoffers : OffersLists choices draft outline) (first : Nat) :
    ∃ forest : Forest, forest.outline = outline ∧
      (∀ question ∈ forest.questions, question.answers = draft.answers question.type) ∧
      ReadAs choices options (lineRows (outline.lines languages) first) forest := by
  induction outline generalizing first with
  | nil => exact ⟨.nil, rfl, fun _ hm => absurd hm List.not_mem_nil, .nil⟩
  | group g inner rest ihInner ihRest =>
    obtain ⟨-, hinner, hrest⟩ := h
    obtain ⟨group, hgroup, hbegin⟩ :=
      reading?_beginLine choices options g (UInt32.ofNat (first + 1))
    obtain ⟨innerForest, hinnerOutline, hinnerAnswers, hinnerRead⟩ := ihInner hinner
      (fun list hm => hoffers list (List.mem_append_left _ hm)) (first + 1)
    generalize hlast : first + 1 + (inner.lines languages).length = last
    obtain ⟨groupEnd, hend⟩ :=
      reading?_endLine choices options g.kind languages (UInt32.ofNat (last + 1))
    obtain ⟨restForest, hrestOutline, hrestAnswers, hrestRead⟩ := ihRest hrest
      (fun list hm => hoffers list (List.mem_append_right _ hm)) (last + 1)
    refine ⟨.group group innerForest restForest, ?_, ?_, ?_⟩
    · rw [Forest.outline, hgroup, hinnerOutline, hrestOutline]
    · exact List.forall_mem_append.2 ⟨hinnerAnswers, hrestAnswers⟩
    · rw [lines, lineRows_cons, lineRows_append, lineRows_cons, hlast]
      exact .group hbegin hend hinnerRead hrestRead
  | question q rest ih =>
    obtain ⟨hquestion, hrest⟩ := h
    obtain ⟨question, houtline, hanswers, hread⟩ := reading?_line options hquestion.type
      (fun list hlist => hoffers list (List.mem_append_left _ (by simp [hlist])))
      (UInt32.ofNat (first + 1))
    obtain ⟨restForest, hrestOutline, hrestAnswers, hrestRead⟩ := ih hrest
      (fun list hm => hoffers list (List.mem_append_right _ hm)) (first + 1)
    refine ⟨.question question restForest, ?_, ?_, .question hread hrestRead⟩
    · rw [Forest.outline, houtline, hrestOutline]
    · exact List.forall_mem_cons.2 ⟨hanswers, hrestAnswers⟩

/-! ## Conditions -/

/-- Conditions in words leave the outline as it is. -/
theorem outline_withConditions (languages : List Language) (options : Options)
    (items lookup : Forest) :
    (items.withConditions languages options lookup).outline = items.outline := by
  induction items with
  | nil => rfl
  | group g inner rest ihInner ihRest =>
    simp only [Forest.withConditions, Forest.outline, Group.outline, source_phrase, ihInner, ihRest]
  | question q rest ih =>
    simp only [Forest.withConditions, Forest.outline, Question.outline, source_phrase, ih]

theorem questions_withConditions (languages : List Language) (options : Options)
    (items lookup : Forest) : (items.withConditions languages options lookup).questions =
      items.questions.map fun question =>
        { question with condition := question.condition.phrase lookup languages options } := by
  rw [Forest.questions_eq, Forest.questions_eq, events_withConditions, List.filterMap_map,
    List.map_filterMap]
  congr 1
  funext event
  cases event <;> rfl

/-! ## The round trip -/

theorem offersLists_of_rows {draft : Draft} (h : draft.WellFormed) {choices : Option ChoicesSheet}
    (hchoices : draft.items.lists ≠ [] → ∃ sheet, choices = some sheet ∧
      sheet.rows = choiceRows draft.choices 1) : OffersLists choices draft draft.items := by
  intro list hm
  obtain ⟨sheet, hsheet, hrows⟩ := hchoices (List.ne_nil_of_mem hm)
  obtain ⟨choice, hchoice, hlist⟩ := h.lists list hm
  have hanswers : (sheet.list list).filterMap SurveyRow.answerOf? =
      (draft.choices.filter fun choice => some choice.list = some list).map
        ChoiceOutline.answer := by
    rw [ChoicesSheet.list, hrows, filterMap_answerOf?_choiceRows]
  refine ⟨sheet, hsheet, fun hnil => ?_, hanswers⟩
  rw [hnil] at hanswers
  have hnone := List.map_eq_nil_iff.1 hanswers.symm
  refine List.filter_eq_nil_iff.1 hnone choice hchoice ?_
  rw [hlist, decide_eq_true rfl]

/-- A well-formed draft, written into a workbook and converted, comes back as it was. -/
theorem Survey.ofWorkbook_draft {draft : Draft} (h : draft.WellFormed) (options : Options) :
    ∃ survey, Survey.ofWorkbook draft.workbook options = .ok survey ∧
      survey.warnings = ⟨[], []⟩ ∧
      survey.items.outline = draft.items ∧
      ∀ question ∈ survey.items.questions, question.answers = draft.answers question.type := by
  obtain ⟨form, hform, hrows, hchoices⟩ := Form.rows_ofWorkbook_draft h
  obtain ⟨forest, houtline, hanswers, hread⟩ :=
    Outline.exists_readAs options h.items (offersLists_of_rows h hchoices) 1
  have hassemble : form.assemble options = ⟨forest, ⟨[], []⟩⟩ := by
    rw [Form.assemble, hrows, hread.assembleRows_eq]
  refine ⟨ofForm form options, ?_, ?_, ?_, ?_⟩
  · rw [ofWorkbook, hform]
    rfl
  · show (form.assemble options).warnings = ⟨[], []⟩
    rw [hassemble]
  · show ((form.assemble options).items.withConditions _ _ _).outline = draft.items
    rw [hassemble, outline_withConditions, houtline]
  · show ∀ question ∈ ((form.assemble options).items.withConditions _ _ _).questions, _
    rw [hassemble, questions_withConditions]
    intro question hm
    obtain ⟨source, hsource, rfl⟩ := List.mem_map.1 hm
    exact hanswers source hsource

/-- A repeated group with a question about a list, and a question behind it. -/
def mealsDraft : Draft where
  languages := ["English", "French"]
  items := .group
    ⟨.repeated, some "meal", labels (some "Meal") (some "Repas"), some "${eats} = '1'"⟩
    (.question ⟨⟨.selectOne, some (.selection "fruit" true)⟩, "fruit",
      labels (some "Fruit eaten") none, none⟩ .nil)
    (.question ⟨⟨.text, none⟩, "remarks", labels none none, none⟩ .nil)
  choiceLanguages := ["English"]
  choices := [⟨"fruit", "a", ⟨[(.ofLabel "English", some "Apple")]⟩⟩,
    ⟨"fruit", "b", ⟨[(.ofLabel "English", some "Banana")]⟩⟩]
where
  labels (english french : Option String) : Localized :=
    ⟨[(.ofLabel "English", english), (.ofLabel "French", french)]⟩

theorem wellFormed_mealsDraft : mealsDraft.WellFormed where
  languages := ⟨by decide, by decide, by decide⟩
  items_ne_nil := nofun
  items := by
    refine ⟨⟨by decide, by decide, by decide, by decide⟩, ⟨?_, trivial⟩, ?_, trivial⟩
    · refine ⟨⟨⟨"select_one fruit or_other", rfl⟩, nofun, rfl, ?_⟩, by decide, by decide, by decide,
        by decide⟩
      rintro options ⟨⟩
      have hfruit : Text.IsWord Text.isBlank "fruit" := by decide
      exact hfruit.2
    · exact ⟨⟨⟨"text", rfl⟩, nofun, rfl, nofun⟩, by decide, by decide, by decide, by decide⟩
  choiceLanguages := ⟨by decide, by decide, by decide⟩
  choiceLanguages_ne_nil _ := List.cons_ne_nil _ _
  choices := by
    intro choice hm
    simp only [mealsDraft, List.mem_cons, List.not_mem_nil, or_false] at hm
    obtain rfl | rfl := hm
    · exact ⟨by decide, by decide, by decide, by decide⟩
    · exact ⟨by decide, by decide, by decide, by decide⟩
  lists := by decide

theorem ofWorkbook_mealsDraft : ∃ survey, Survey.ofWorkbook mealsDraft.workbook {} = .ok survey ∧
    survey.warnings = ⟨[], []⟩ ∧ survey.items.outline = mealsDraft.items ∧
    ∀ question ∈ survey.items.questions, question.answers = mealsDraft.answers question.type :=
  Survey.ofWorkbook_draft wellFormed_mealsDraft {}

end Questionnaire
