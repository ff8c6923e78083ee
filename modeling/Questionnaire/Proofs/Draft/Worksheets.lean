import Questionnaire.Assembly.Reading
import Questionnaire.Form
import Questionnaire.Proofs.Draft.LabelColumns
import Questionnaire.Proofs.Draft.Lines

/-!
# Worksheets of a draft

No row of a written worksheet is vacant, so the titles are its header and every other row is
content. A row of the survey worksheet is read as the line that it was written for, and a row of
the choices worksheet as its choice.

Results:

* `Worksheet.table_ofTexts`: the header and the content of a written worksheet.
* `SurveySheet.ofWorksheet_draft`, `ChoicesSheet.ofWorksheet_draft`: the worksheets read again.
* `Form.rows_ofWorkbook_draft`: the form of a written draft.
-/

namespace Questionnaire

/-! ## Rows -/

/-- The content rows that texts are written into, the header being the first row. -/
def contentRows (rows : List (List String)) : List Row :=
  (rows.zipIdx 1).map fun (cells, index) => ⟨UInt32.ofNat (index + 1), cells.map some⟩

theorem isVacant_of_tidy {number : UInt32} {first : String} {others : List String}
    (h : Text.Tidy first) : Row.isVacant ⟨number, (first :: others).map some⟩ = false := by
  have hcell : cellText (some first) = some first := h
  simp [Row.isVacant, hcell]

/-- The rows begin with a tidy text, so that none is vacant. -/
def BeginTidy (rows : List (List String)) : Prop :=
  ∀ row ∈ rows, ∃ first others, row = first :: others ∧ Text.Tidy first

theorem Worksheet.filledRows_ofTexts (name : String) {rows : List (List String)}
    (h : BeginTidy rows) : (Worksheet.ofTexts name rows).filledRows =
      rows.zipIdx.map fun (cells, index) => ⟨UInt32.ofNat (index + 1), cells.map some⟩ := by
  refine List.filter_eq_self.2 fun row hm => ?_
  obtain ⟨⟨cells, index⟩, hcells, rfl⟩ := List.mem_map.1 hm
  obtain ⟨first, others, rfl, hfirst⟩ := h cells (List.fst_mem_of_mem_zipIdx hcells)
  simp only [isVacant_of_tidy hfirst, Bool.not_false]

theorem Worksheet.table_ofTexts (name : String) (sheet : SheetKind) {titles : List String}
    {rows : List (List String)} (hne : titles ≠ []) (htitles : ∀ title ∈ titles, Text.Tidy title)
    (hrows : BeginTidy rows) (hcontent : rows ≠ []) :
    ∃ table, (Worksheet.ofTexts name (titles :: rows)).table sheet = .ok table ∧
      table.header = .ofTitles sheet titles ∧ table.content = contentRows rows := by
  have hall : BeginTidy (titles :: rows) := by
    intro row hm
    obtain rfl | hm := List.mem_cons.1 hm
    · obtain ⟨first, others, rfl⟩ := List.exists_cons_of_ne_nil hne
      exact ⟨first, others, rfl, htitles first List.mem_cons_self⟩
    · exact hrows row hm
  have hfilled := filledRows_ofTexts name hall
  obtain ⟨first, others, rfl⟩ := List.exists_cons_of_ne_nil hcontent
  rw [table, hfilled]
  refine ⟨_, rfl, Header.ofRow_titles sheet _ htitles, rfl⟩

/-! ## The survey worksheet -/

/-- The row that is read from the cells of a line. -/
def Line.row (line : Line) (number : UInt32) : SurveyRow where
  number := number
  vacant := false
  typeText := some line.type
  name := line.name
  label := line.label
  hint := .empty
  relevant := line.relevant
  required := none
  notes := none
  appearance := none
  calculation := none
  defaultValue := none
  constraint := none
  constraintMessage := .empty
  readOnly := none
  ageGroup := none
  choiceFilter := none

/-- The columns of a written survey worksheet. -/
def writtenColumns (languages : List String) : SurveyColumns where
  type := 0
  name := 1
  relevant := 2
  label := if languages = [] then none else some (labelCluster languages 3)
  hint := none
  constraintMessage := none
  required := none
  notes := none
  appearance := none
  calculation := none
  defaultValue := none
  constraint := none
  readOnly := none
  ageGroup := none
  choiceFilter := none

/-- The rows that are read from lines, from the given position on. -/
def lineRows (lines : List Line) (first : Nat) : List SurveyRow :=
  (lines.zipIdx first).map fun (line, index) => line.row (UInt32.ofNat (index + 1))

/-- Titles of label columns are none of the other titles. -/
theorem not_mem_append_labelTitle {fixed languages : List String} {title : String}
    (hfixed : title ∉ fixed) (hlabel : Text.dropPrefix? "label::".toList title.toList = none) :
    title ∉ fixed ++ languages.map labelTitle := by
  intro hm
  obtain hm | hm := List.mem_append.1 hm
  · exact hfixed hm
  · obtain ⟨language, -, heq⟩ := List.mem_map.1 hm
    exact labelTitle_ne hlabel heq

/-- The columns that a survey worksheet may have besides. -/
def furtherTitles : List String :=
  ["required", "notes", "appearance", "calculation", "default", "constraint", "read_only",
   "agegroup", "age_group", "age group", "choice_filter", "choice filter"]

theorem SurveyColumns.find_ofTitles {languages : List String} (h : AreLanguages languages) :
    SurveyColumns.find (.ofTitles .survey (["type", "name", "relevant"] ++
      languages.map labelTitle)) = .ok (writtenColumns languages) := by
  generalize hheader : Header.ofTitles .survey (["type", "name", "relevant"] ++
    languages.map labelTitle) = header
  have htype : header.column "type" = .ok 0 := by
    rw [Header.column_eq_ok_iff, ← hheader, Header.position?_ofTitles]
    rfl
  have hname : header.column "name" = .ok 1 := by
    rw [Header.column_eq_ok_iff, ← hheader, Header.position?_ofTitles]
    rfl
  have hrelevant : header.column "relevant" = .ok 2 := by
    rw [Header.column_eq_ok_iff, ← hheader, Header.position?_ofTitles]
    rfl
  have hlabel : header.cluster? "label" =
      if languages = [] then none else some (labelCluster languages 3) := by
    rw [← hheader, Header.cluster?_label .survey (by decide) h]
    rfl
  have hfurther : ∀ title ∈ furtherTitles, header.position? title = none := by
    intro title hm
    have hclosed : ∀ title ∈ furtherTitles, title ∉ ["type", "name", "relevant"] ∧
        Text.dropPrefix? "label::".toList title.toList = none := by decide
    rw [← hheader]
    exact Header.position?_ofTitles_of_not_mem
      (not_mem_append_labelTitle (hclosed title hm).1 (hclosed title hm).2)
  have hcluster : ∀ stem ∈ ["hint", "constraint_message"], header.cluster? stem = none := by
    intro stem hstem
    have hclosed : ∀ stem ∈ ["hint", "constraint_message"], stem.toList.head? ≠ some 'l' ∧
        ∀ title ∈ ["type", "name", "relevant"], clusterTail? stem title = none := by decide
    rw [← hheader]
    refine Header.cluster?_ofTitles_of_forall fun title hm => ?_
    obtain hm | hm := List.mem_append.1 hm
    · exact (hclosed stem hstem).2 title hm
    · obtain ⟨language, -, rfl⟩ := List.mem_map.1 hm
      exact clusterTail?_labelTitle_eq_none (hclosed stem hstem).1 language
  have hany : ∀ titles, (∀ title ∈ titles, title ∈ furtherTitles) →
      header.anyColumn? titles = none := fun titles hm =>
    List.findSome?_eq_none_iff.2 fun title hmem => hfurther title (hm title hmem)
  rw [find, htype, hname, hrelevant, hlabel, hcluster "hint" (by decide),
    hcluster "constraint_message" (by decide), hany _ (by decide), hany _ (by decide),
    hany _ (by decide), hany _ (by decide), hany _ (by decide), hany _ (by decide),
    hany _ (by decide), hany _ (by decide), hany _ (by decide)]
  rfl

theorem SurveyColumns.read_line {line : Line} {languages : List String}
    (h : line.WellFormed languages) (hnodup : languages.Nodup) (number : UInt32) :
    (writtenColumns languages).read ⟨number, line.cells.map some⟩ = line.row number := by
  have htype : Row.text ⟨number, line.cells.map some⟩ 0 = some line.type := cellText_tidy h.type
  have hname : Row.text ⟨number, line.cells.map some⟩ 1 = line.name := cellText_written h.name
  have hrelevant : Row.text ⟨number, line.cells.map some⟩ 2 = line.relevant :=
    cellText_written h.relevant
  have hlabel : SurveyColumns.localized (writtenColumns languages).label
      ⟨number, line.cells.map some⟩ = line.label :=
    localized_cluster?_label h.label hnodup rfl
  have hvacant : Row.isVacant ⟨number, line.cells.map some⟩ = false := isVacant_of_tidy h.type
  simp only [read, hvacant, hlabel]
  simp only [writtenColumns, htype, hname, hrelevant, Option.bind_none]
  rfl

theorem contentRows_map {α : Type} (items : List α) (cells : α → List String) :
    contentRows (items.map cells) = (items.zipIdx 1).map fun (item, index) =>
      ⟨UInt32.ofNat (index + 1), (cells item).map some⟩ := by
  rw [contentRows, List.zipIdx_map, List.map_map]
  rfl

theorem SurveySheet.ofWorksheet_draft {draft : Draft} (h : draft.WellFormed) :
    ∃ sheet, SurveySheet.ofWorksheet draft.surveyWorksheet = .ok sheet ∧
      sheet.rows = lineRows (draft.items.lines draft.languages) 1 := by
  have hlines := Outline.lines_wellFormed h.items
  have htitles : ∀ title ∈ draft.surveyTitles, Text.Tidy title :=
    tidy_titles (by decide) h.languages.tidy
  have hrows : BeginTidy ((draft.items.lines draft.languages).map Line.cells) := by
    intro row hm
    obtain ⟨line, hline, rfl⟩ := List.mem_map.1 hm
    exact ⟨_, _, rfl, (hlines line hline).type⟩
  have hcontent : (draft.items.lines draft.languages).map Line.cells ≠ [] := fun hnil =>
    Outline.lines_ne_nil h.items_ne_nil (List.map_eq_nil_iff.1 hnil)
  have hne : draft.surveyTitles ≠ [] := List.cons_ne_nil _ _
  obtain ⟨table, htable, hheader, hcontent⟩ :=
    Worksheet.table_ofTexts "survey" .survey hne htitles hrows hcontent
  have hread : table.content.map (writtenColumns draft.languages).read =
      lineRows (draft.items.lines draft.languages) 1 := by
    rw [hcontent, contentRows_map, List.map_map, lineRows]
    refine List.map_congr_left fun (line, index) hm => ?_
    exact SurveyColumns.read_line (hlines line (List.fst_mem_of_mem_zipIdx hm)) h.languages.nodup _
  have hcolumns : SurveyColumns.find table.header = .ok (writtenColumns draft.languages) := by
    rw [hheader]
    exact SurveyColumns.find_ofTitles h.languages
  refine ⟨⟨table.header, (writtenColumns draft.languages).label, none, _⟩, ?_, hread⟩
  simp only [ofWorksheet, Draft.surveyWorksheet, htable, hcolumns, bind, Except.bind]
  rfl

/-! ## The choices worksheet -/

/-- The row that is read from the cells of a choice. -/
def ChoiceOutline.row (choice : ChoiceOutline) (number : UInt32) : ChoiceRow where
  number := number
  list := some choice.list
  name := some choice.name
  label := choice.label
  filters := []

/-- The columns of a written choices worksheet. -/
def writtenChoicesColumns (languages : List String) : ChoicesColumns where
  list := 0
  name := 1
  label := labelCluster languages 2
  filters := []

theorem hasColumn_labelCluster {languages : List String} {first column : Nat}
    (hfirst : first ≤ column) (hlast : column < first + languages.length) :
    (labelCluster languages first).hasColumn column = true := by
  have hlanguage : languages[column - first]? = some languages[column - first] :=
    List.getElem?_eq_getElem (by omega)
  have hm : (languages[column - first], column) ∈ languages.zipIdx first :=
    List.mk_mem_zipIdx_iff_le_and_getElem?_sub.2 ⟨hfirst, hlanguage⟩
  rw [Cluster.hasColumn, List.any_eq_true]
  exact ⟨_, List.mem_map_of_mem hm, decide_eq_true rfl⟩

theorem ChoicesColumns.find_ofTitles {languages : List String} (h : AreLanguages languages)
    (hne : languages ≠ []) :
    ChoicesColumns.find (.ofTitles .choices (["list_name", "name"] ++
      languages.map labelTitle)) = .ok (writtenChoicesColumns languages) := by
  generalize hheader : Header.ofTitles .choices (["list_name", "name"] ++
    languages.map labelTitle) = header
  have hlist : header.anyColumn ["list_name", "list name"] = .ok 0 := by
    rw [← hheader, Header.anyColumn, Header.anyColumn?, List.findSome?_cons,
      Header.position?_ofTitles]
    rfl
  have hname : header.column "name" = .ok 1 := by
    rw [Header.column_eq_ok_iff, ← hheader, Header.position?_ofTitles]
    rfl
  have hlabel : header.cluster "label" = .ok (labelCluster languages 2) := by
    rw [← hheader, Header.cluster, Header.cluster?_label .choices (by decide) h, if_neg hne]
    rfl
  have hfilters : filterColumns header 0 1 (labelCluster languages 2) = [] := by
    rw [filterColumns, ← hheader, Header.titled_ofTitles, List.filter_eq_nil_iff]
    intro entry hm hfilter
    obtain ⟨⟨title, column⟩, htitle, rfl⟩ := List.mem_map.1 hm
    have hlast := List.snd_lt_add_of_mem_zipIdx htitle
    simp only [List.length_append, List.length_cons, List.length_nil, List.length_map] at hlast
    have hcolumn : (column ≠ 0 && column ≠ 1 &&
        !(labelCluster languages 2).hasColumn column) = true := hfilter
    simp only [Bool.and_eq_true, decide_eq_true_eq, Bool.not_eq_true'] at hcolumn
    obtain ⟨⟨hzero, hone⟩, hnone⟩ := hcolumn
    have hsome : (labelCluster languages 2).hasColumn column = true :=
      hasColumn_labelCluster (by omega) (by omega)
    rw [hnone] at hsome
    cases hsome
  rw [find, hlist, hname, hlabel]
  show Except.ok _ = _
  rw [hfilters]
  rfl

theorem ChoicesColumns.read_choice {choice : ChoiceOutline} {languages : List String}
    (h : choice.WellFormed languages) (hnodup : languages.Nodup) (number : UInt32) :
    (writtenChoicesColumns languages).read ⟨number, choice.cells.map some⟩ = choice.row number := by
  have hlist : Row.text ⟨number, choice.cells.map some⟩ 0 = some choice.list := cellText_tidy h.list
  have hname : Row.text ⟨number, choice.cells.map some⟩ 1 = some choice.name := cellText_tidy h.name
  have hlabel : (labelCluster languages 2).localized ⟨number, choice.cells.map some⟩ =
      choice.label := localized_labelCluster h.label hnodup rfl
  simp only [read, writtenChoicesColumns, hlist, hname, hlabel, List.filterMap_nil]
  rfl

/-- The rows that are read from choices, from the given position on. -/
def choiceRows (choices : List ChoiceOutline) (first : Nat) : List ChoiceRow :=
  (choices.zipIdx first).map fun (choice, index) => choice.row (UInt32.ofNat (index + 1))

theorem Draft.WellFormed.choices_ne_nil {draft : Draft} (h : draft.WellFormed)
    (hlists : draft.items.lists ≠ []) : draft.choices ≠ [] := by
  obtain ⟨list, others, hcons⟩ := List.exists_cons_of_ne_nil hlists
  obtain ⟨choice, hm, -⟩ := h.lists list (by rw [hcons]; exact List.mem_cons_self)
  exact List.ne_nil_of_mem hm

theorem ChoicesSheet.ofWorksheet_draft {draft : Draft} (h : draft.WellFormed)
    (hlists : draft.items.lists ≠ []) :
    ∃ sheet, ChoicesSheet.ofWorksheet draft.choicesWorksheet = .ok sheet ∧
      sheet.rows = choiceRows draft.choices 1 := by
  have htitles : ∀ title ∈ draft.choicesTitles, Text.Tidy title :=
    tidy_titles (by decide) h.choiceLanguages.tidy
  have hrows : BeginTidy (draft.choices.map ChoiceOutline.cells) := by
    intro row hm
    obtain ⟨choice, hchoice, rfl⟩ := List.mem_map.1 hm
    exact ⟨_, _, rfl, (h.choices choice hchoice).list⟩
  have hcontent : draft.choices.map ChoiceOutline.cells ≠ [] := fun hnil =>
    h.choices_ne_nil hlists (List.map_eq_nil_iff.1 hnil)
  have hne : draft.choicesTitles ≠ [] := List.cons_ne_nil _ _
  obtain ⟨table, htable, hheader, hcontent⟩ :=
    Worksheet.table_ofTexts "choices" .choices hne htitles hrows hcontent
  have hread : table.content.map (writtenChoicesColumns draft.choiceLanguages).read =
      choiceRows draft.choices 1 := by
    rw [hcontent, contentRows_map, List.map_map, choiceRows]
    refine List.map_congr_left fun (choice, index) hm => ?_
    exact ChoicesColumns.read_choice (h.choices choice (List.fst_mem_of_mem_zipIdx hm))
      h.choiceLanguages.nodup _
  have hcolumns : ChoicesColumns.find table.header =
      .ok (writtenChoicesColumns draft.choiceLanguages) := by
    rw [hheader]
    exact ChoicesColumns.find_ofTitles h.choiceLanguages (h.choiceLanguages_ne_nil hlists)
  refine ⟨⟨table.header, labelCluster draft.choiceLanguages 2, _⟩, ?_, hread⟩
  simp only [ofWorksheet, Draft.choicesWorksheet, htable, hcolumns, bind, Except.bind]
  rfl

/-- The answers of a list are its choices in their order. -/
theorem filterMap_answerOf?_choiceRows (choices : List ChoiceOutline) (list : String)
    (first : Nat) : ((choiceRows choices first).filter fun row => row.list = some list).filterMap
        SurveyRow.answerOf? =
      (choices.filter fun choice => some choice.list = some list).map ChoiceOutline.answer := by
  induction choices generalizing first with
  | nil => rfl
  | cons choice choices ih =>
    have ih := ih (first + 1)
    rw [choiceRows, List.zipIdx_cons, List.map_cons]
    have hrow (number : UInt32) : (choice.row number).list = some choice.list := rfl
    by_cases heq : some choice.list = some list
    · rw [List.filter_cons_of_pos (by rw [hrow, heq, decide_eq_true rfl]),
        List.filter_cons_of_pos (by rw [heq, decide_eq_true rfl]), List.map_cons, ← ih]
      rfl
    · rw [List.filter_cons_of_neg (by rw [hrow, decide_eq_false heq]; exact Bool.false_ne_true),
        List.filter_cons_of_neg (by rw [decide_eq_false heq]; exact Bool.false_ne_true), ← ih]
      rfl

/-! ## The form -/

theorem Workbook.worksheet?_cons (worksheet : Worksheet) (others : List Worksheet)
    (fragment : String) : (⟨worksheet :: others⟩ : Workbook).worksheet? fragment =
      if Text.contains worksheet.name fragment then some worksheet
      else (⟨others⟩ : Workbook).worksheet? fragment := by
  rw [worksheet?, List.find?_cons]
  cases Text.contains worksheet.name fragment <;> rfl

theorem worksheet?_survey (draft : Draft) :
    draft.workbook.worksheet? "survey" = some draft.surveyWorksheet := by
  have hcontains : Text.contains "survey" "survey" = true := by decide
  rw [Draft.workbook, Workbook.worksheet?_cons]
  exact if_pos hcontains

theorem worksheet?_choices (draft : Draft) : draft.workbook.worksheet? "choices" =
    if draft.items.lists = [] then none else some draft.choicesWorksheet := by
  have hsurvey : ¬ Text.contains "survey" "choices" = true := by decide
  have hchoices : Text.contains "choices" "choices" = true := by decide
  rw [Draft.workbook, Workbook.worksheet?_cons]
  refine (if_neg hsurvey).trans ?_
  by_cases hlists : draft.items.lists = []
  · rw [if_pos hlists, if_pos hlists]
    rfl
  · rw [if_neg hlists, if_neg hlists, Workbook.worksheet?_cons]
    exact if_pos hchoices

theorem worksheet?_settings (draft : Draft) : draft.workbook.worksheet? "settings" = none := by
  have hsurvey : ¬ Text.contains "survey" "settings" = true := by decide
  have hchoices : ¬ Text.contains "choices" "settings" = true := by decide
  rw [Draft.workbook, Workbook.worksheet?_cons]
  refine (if_neg hsurvey).trans ?_
  by_cases hlists : draft.items.lists = []
  · rw [if_pos hlists]
    rfl
  · rw [if_neg hlists, Workbook.worksheet?_cons]
    exact if_neg hchoices

theorem Form.rows_ofWorkbook_draft {draft : Draft} (h : draft.WellFormed) :
    ∃ form, Form.ofWorkbook draft.workbook = .ok form ∧
      form.survey.rows = lineRows (draft.items.lines draft.languages) 1 ∧
      (draft.items.lists ≠ [] → ∃ sheet, form.choices = some sheet ∧
        sheet.rows = choiceRows draft.choices 1) := by
  obtain ⟨survey, hsurvey, hrows⟩ := SurveySheet.ofWorksheet_draft h
  have hchoices := worksheet?_choices draft
  by_cases hlists : draft.items.lists = []
  · rw [if_pos hlists] at hchoices
    refine ⟨⟨survey, none, none⟩, ?_, hrows, absurd hlists⟩
    simp only [Form.ofWorkbook, SheetKind.title, worksheet?_survey, hchoices, worksheet?_settings,
      hsurvey, readOptional, bind, Except.bind]
    rfl
  · rw [if_neg hlists] at hchoices
    obtain ⟨sheet, hsheet, hchoiceRows⟩ :=
      ChoicesSheet.ofWorksheet_draft h hlists
    refine ⟨⟨survey, some sheet, none⟩, ?_, hrows, fun _ => ⟨sheet, rfl, hchoiceRows⟩⟩
    simp only [Form.ofWorkbook, SheetKind.title, worksheet?_survey, hchoices, worksheet?_settings,
      hsurvey, hsheet, readOptional, bind, Except.bind, Except.map]
    rfl

end Questionnaire
