import Questionnaire.Proofs.Header.Namings
import Questionnaire.Proofs.Survey.LanguageCoverage

/-!
# Languages shared by two worksheets

The survey and the choices name the languages of their labels apart from each other, each from the
suffixes of its own columns. So a language stands in both when the namings agree, which the suffixes
alone do not decide: columns without a proper suffix are counted in each worksheet on its own. Where
a language is shared, the texts of questions and of their answers in this language come from one
column of the survey and one of the choices, whichever their suffixes are.

Main definitions:

* `Form.SharesNames`: when a column of the survey and one of the choices have the same language.
* `Survey.LabelledFrom`: the columns from which labels in a language are read.

Results:

* `Cluster.exists_column_of_mem_languages`: a localized text is read from one column per language.
* `Form.sharedNames_ofWorkbook`: the shared languages of a form, and the texts in them.
-/

namespace Questionnaire

/-! ## Label columns -/

/-- The language of a label column of the survey worksheet. -/
def SurveySheet.languageAt? (sheet : SurveySheet) (column : ℕ) : Option Language :=
  sheet.label.bind fun cluster => cluster.languageAt? column

/-- The language of a label column of the choices worksheet. -/
def ChoicesSheet.languageAt? (sheet : ChoicesSheet) (column : ℕ) : Option Language :=
  sheet.label.languageAt? column

theorem SurveyColumns.find_eq_ok {header : Header} {columns : SurveyColumns}
    (h : find header = .ok columns) :
    header.position? "name" = some columns.name ∧ columns.label = header.cluster? "label" := by
  simp only [find, bind_eq_ok_iff] at h
  obtain ⟨type, -, name, hname, relevant, -, hcolumns⟩ := h
  obtain rfl := Except.ok.inj hcolumns
  exact ⟨Header.column_eq_ok_iff.1 hname, rfl⟩

theorem ChoicesColumns.find_eq_ok {header : Header} {columns : ChoicesColumns}
    (h : find header = .ok columns) :
    header.position? "name" = some columns.name ∧
      header.cluster? "label" = some columns.label :=
  have ⟨_, hname, hlabel, _⟩ := find_eq_ok_iff.1 h
  ⟨hname, hlabel⟩

namespace Cluster

/-- In each of its languages, the texts of a cluster are read from one column. -/
theorem exists_column_of_mem_languages {header : Header} {stem : String} {cluster : Cluster}
    (h : header.cluster? stem = some cluster) {language : Language}
    (hm : language ∈ cluster.languages) :
    ∃ column, cluster.languageAt? column = some language ∧
      ∀ row, (cluster.localized row).text? language = row.text column := by
  cases hfound : cluster.columns.find? fun column => column.language = language with
  | none =>
    obtain ⟨column, hcolumn, hlanguage⟩ := List.mem_map.1 hm
    exact absurd (decide_eq_true hlanguage) (List.find?_eq_none.1 hfound column hcolumn)
  | some column =>
    have hlanguage : column.language = language := of_decide_eq_true (List.find?_some hfound :)
    refine ⟨column.column, ?_, fun row => ?_⟩
    · have hpair : (column.column, language) ∈
          (header.namings stem).map (Prod.map id Naming.language) := by
        rw [← Header.map_columns_cluster? h, ← hlanguage]
        exact List.mem_map.2 ⟨column, List.mem_of_find?_eq_some hfound, rfl⟩
      obtain ⟨⟨column', naming⟩, hnaming, heq⟩ := List.mem_map.1 hpair
      obtain ⟨rfl, hname⟩ := Prod.mk.inj heq
      exact (Header.languageAt?_eq_some_iff h).2 ⟨naming, hnaming, hname⟩
    · rw [text?_localized, hfound]
      rfl

end Cluster

/-! ## Shared names -/

/-- The label columns of the survey and of the choices, and when two of them have the same
language. -/
structure Form.SharesNames (form : Form) (choices : ChoicesSheet) : Prop where
  surveyColumns : ∀ entry ∈ form.survey.header.tails "label", ∃ naming,
    (entry.1, naming) ∈ form.survey.header.namings "label" ∧
      form.survey.languageAt? entry.1 = some naming.language
  choicesColumns : ∀ entry ∈ choices.header.tails "label", ∃ naming,
    (entry.1, naming) ∈ choices.header.namings "label" ∧
      choices.languageAt? entry.1 = some naming.language
  same : ∀ column naming, (column, naming) ∈ form.survey.header.namings "label" →
    ∀ other otherNaming, (other, otherNaming) ∈ choices.header.namings "label" →
      (form.survey.languageAt? column = choices.languageAt? other ↔ naming.Agrees otherNaming)
  /-- Between suffixes that start with a letter, only the same suffix has the same language. -/
  lettered : ∀ column title tail, (column, title, tail) ∈ form.survey.header.tails "label" →
    Text.startsWithLetter tail.toList = true →
    ∀ other otherTitle otherTail, (other, otherTitle, otherTail) ∈ choices.header.tails "label" →
      Text.startsWithLetter otherTail.toList = true →
        (form.survey.languageAt? column = choices.languageAt? other ↔ tail = otherTail)
  inCommon : ∀ language, language ∈ form.languages.inCommon ↔
    (∃ column, form.survey.languageAt? column = some language) ∧
      ∃ other, choices.languageAt? other = some language

/-- The text as it is shown in a label. -/
def Options.shown (options : Options) (text : String) : String :=
  if options.lineBreaksAsMarkup then Text.replace text "\n" "<br />" else text

/-- The trimmed text of a row in the column of this title. -/
def SheetTable.textIn (table : SheetTable) (title : String) (row : Row) : Option String :=
  (table.header.position? title).bind row.text

/-- In the language, the labels of the questions come from one column of the survey, and those of
their answers from one column of the choices, where conditions find them too. -/
structure Survey.LabelledFrom (survey : Survey) (options : Options) (language : Language)
    (table : SheetTable) (column : ℕ) (choices : SheetTable) (other : ℕ) : Prop where
  question : ∀ q, .question q ∈ survey.items.events → ∃ row ∈ table.content,
    q.name = (table.textIn "name" row).getD "" ∧ q.labelFull.text? language = row.text column ∧
      q.label.text? language = (row.text column).map options.shown
  answer : ∀ q, .question q ∈ survey.items.events → ∀ answer ∈ q.answers,
    ∃ row ∈ choices.content, choices.textIn "name" row = some answer.id ∧
      answer.label.text? language = row.text other
  worded : ∀ q, .question q ∈ survey.items.events → ∀ id, (q.answer? id).isSome →
    ∃ row ∈ choices.content, choices.textIn "name" row = some id ∧
      ∀ text, row.text other = some text → ∀ lookup,
        (Relevance.Reader.mk lookup language options).answerSegment q id = ⟨.answer, text⟩

/-! ## Forms -/

theorem Localized.text?_mapTexts (text : Localized) (f : String → String) (language : Language) :
    (text.mapTexts f).text? language = (text.text? language).map f := by
  obtain ⟨entries⟩ := text
  unfold Localized.text? Localized.get? mapTexts
  induction entries with
  | nil => rfl
  | cons entry entries ih =>
    rw [List.map_cons, List.lookup_cons, List.lookup_cons]
    cases language == entry.1 with
    | false => exact ih
    | true => rfl

theorem SurveyRow.text?_shownLabel (row : SurveyRow) (options : Options) (language : Language) :
    (row.shownLabel options).text? language = (row.label.text? language).map options.shown := by
  unfold shownLabel
  cases hbreaks : options.lineBreaksAsMarkup with
  | true =>
    have hshown : options.shown = fun text => Text.replace text "\n" "<br />" := by
      funext text
      simp only [Options.shown, hbreaks, if_true]
    rw [if_pos rfl, Localized.text?_mapTexts, hshown]
  | false =>
    have hshown : options.shown = id := by
      funext text
      simp only [Options.shown, hbreaks, Bool.false_eq_true, if_false, id]
    rw [if_neg Bool.false_ne_true, hshown, Option.map_id, id]

/-- The languages of the survey labels are those of the label columns. -/
theorem SurveySheet.mem_languagesOf_iff {sheet : SurveySheet}
    (h : sheet.label = sheet.header.cluster? "label") {language : Language} :
    language ∈ languagesOf sheet.label ↔ ∃ column, sheet.languageAt? column = some language := by
  unfold languageAt?
  rw [h]
  cases hcluster : sheet.header.cluster? "label" with
  | none => simp [languagesOf]
  | some cluster => exact Header.mem_languages_iff hcluster

/-- The label columns of the two worksheets, as the form knows them. -/
theorem Form.sharesNames {form : Form} {choices : ChoicesSheet}
    (hchoices : form.choices = some choices)
    (hsurvey : form.survey.label = form.survey.header.cluster? "label")
    (hlabel : choices.header.cluster? "label" = some choices.label) :
    form.SharesNames choices := by
  have hsurveyAt {column : ℕ} {naming : Naming}
      (hm : (column, naming) ∈ form.survey.header.namings "label") :
      form.survey.languageAt? column = some naming.language := by
    rw [SurveySheet.languageAt?, hsurvey, Header.languageAt?_of_mem_namings hm]
  have hchoicesAt {column : ℕ} {naming : Naming}
      (hm : (column, naming) ∈ choices.header.namings "label") :
      choices.languageAt? column = some naming.language := by
    rw [← Header.languageAt?_of_mem_namings hm, hlabel]
    rfl
  have hsame {column other : ℕ} {naming otherNaming : Naming}
      (hm : (column, naming) ∈ form.survey.header.namings "label")
      (hother : (other, otherNaming) ∈ choices.header.namings "label") :
      form.survey.languageAt? column = choices.languageAt? other ↔ naming.Agrees otherNaming := by
    rw [hsurveyAt hm, hchoicesAt hother, Option.some_inj]
    exact Naming.language_eq_iff (Header.trimmed_of_mem_namings hm)
      (Header.trimmed_of_mem_namings hother)
  refine ⟨fun entry hm => ?_, fun entry hm => ?_, fun column naming hm other otherNaming hother =>
    hsame hm hother, fun column title tail hm hletter other otherTitle otherTail hother hletter' =>
    ?_, fun language => ?_⟩
  · obtain ⟨naming, hnaming⟩ := Header.exists_naming_of_mem_tails hm
    exact ⟨naming, hnaming, hsurveyAt hnaming⟩
  · obtain ⟨naming, hnaming⟩ := Header.exists_naming_of_mem_tails hm
    exact ⟨naming, hnaming, hchoicesAt hnaming⟩
  · exact (hsame (Header.suffix_mem_namings hm hletter)
      (Header.suffix_mem_namings hother hletter')).trans (Naming.agrees_suffix_iff hletter hletter')
  · refine (LanguagesAvailable.mem_inCommon_compute form.areLabelled_clusters).trans
      (and_congr (SurveySheet.mem_languagesOf_iff hsurvey) ?_)
    rw [hchoices]
    exact Header.mem_languages_iff hlabel

namespace Survey

variable {form : Form} {options : Options} {language : Language} {q : Question}
  (hm : .question q ∈ (ofForm form options).items.events)

include hm

/-- The label of a question is read from the label column of its row. -/
theorem exists_surveyRow_of_question {table : SheetTable} {columns : SurveyColumns}
    (hcolumns : SurveyColumns.find table.header = .ok columns)
    (hrows : form.survey.rows = table.content.map columns.read) {column : ℕ}
    (hlabel : ∀ row, (SurveyColumns.localized columns.label row).text? language = row.text column) :
    ∃ row ∈ table.content, q.name = (table.textIn "name" row).getD "" ∧
      q.labelFull.text? language = row.text column ∧
      q.label.text? language = (row.text column).map options.shown := by
  obtain ⟨row, hrow, condition, rfl⟩ := exists_row_of_question hm
  rw [hrows] at hrow
  obtain ⟨source, hsource, rfl⟩ := List.mem_map.1 hrow
  refine ⟨source, hsource, ?_, hlabel source, ?_⟩
  · rw [SheetTable.textIn, (SurveyColumns.find_eq_ok hcolumns).1]
    rfl
  · refine ((columns.read source).text?_shownLabel options language).trans ?_
    exact congrArg (Option.map options.shown) (hlabel source)

/-- The label of an answer is read from the label column of a choice. -/
theorem exists_choiceRow_of_answer {choices : ChoicesSheet} {table : SheetTable}
    {columns : ChoicesColumns} (hchoices : form.choices = some choices)
    (hcolumns : ChoicesColumns.find table.header = .ok columns)
    (hrows : choices.rows = table.content.map columns.read) {column : ℕ}
    (hlabel : ∀ row, (columns.label.localized row).text? language = row.text column)
    {answer : Answer} (hanswer : answer ∈ q.answers) :
    ∃ row ∈ table.content, table.textIn "name" row = some answer.id ∧
      answer.label.text? language = row.text column := by
  obtain ⟨row, -, condition, rfl⟩ := exists_row_of_question hm
  have hanswer : answer ∈ (row.askedQuestion form.choices options).answers := hanswer
  obtain ⟨sheet, choice, hsheet, hchoice, hid, hchoiceLabel⟩ :=
    SurveyRow.exists_choice_of_mem_answers hanswer
  obtain rfl : choices = sheet := Option.some.inj (hchoices.symm.trans hsheet)
  rw [hrows] at hchoice
  obtain ⟨source, hsource, rfl⟩ := List.mem_map.1 hchoice
  refine ⟨source, hsource, ?_, ?_⟩
  · rw [SheetTable.textIn, (ChoicesColumns.find_eq_ok hcolumns).1]
    exact hid
  · rw [hchoiceLabel]
    exact hlabel source

end Survey

/-- A condition words an answer by its label. -/
theorem Relevance.Reader.answerSegment_of_text? {reader : Reader} {q : Question} {id : String}
    {answer : Answer} {text : String} (hfound : q.answer? id = some answer)
    (htext : answer.label.text? reader.language = some text) :
    reader.answerSegment q id = ⟨.answer, text⟩ := by
  unfold answerSegment
  rw [hfound]
  dsimp only
  rw [htext]

/-- Labels in a language that both worksheets have come from one column each. -/
theorem Survey.exists_labelledFrom {form : Form} {choices : ChoicesSheet}
    {table choicesTable : SheetTable} {columns : SurveyColumns} {choicesColumns : ChoicesColumns}
    (hcolumns : SurveyColumns.find table.header = .ok columns)
    (hchoicesColumns : ChoicesColumns.find choicesTable.header = .ok choicesColumns)
    (hsurvey : form.survey =
      ⟨table.header, columns.label, columns.hint, table.content.map columns.read⟩)
    (hchoices : form.choices = some choices)
    (hsheet : choices = ⟨choicesTable.header, choicesColumns.label,
      choicesTable.content.map choicesColumns.read⟩)
    (options : Options) {language : Language}
    (hat : ∃ column, form.survey.languageAt? column = some language)
    (hotherAt : ∃ other, choices.languageAt? other = some language) :
    ∃ column other, form.survey.languageAt? column = some language ∧
      choices.languageAt? other = some language ∧
      (ofForm form options).LabelledFrom options language table column choicesTable other := by
  have hrows : form.survey.rows = table.content.map columns.read := by rw [hsurvey]
  have hchoiceRows : choices.rows = choicesTable.content.map choicesColumns.read := by rw [hsheet]
  have hchoicesLabel : choices.label = choicesColumns.label := by rw [hsheet]
  obtain ⟨-, hlabel⟩ := SurveyColumns.find_eq_ok hcolumns
  obtain ⟨-, hotherFound⟩ := ChoicesColumns.find_eq_ok hchoicesColumns
  unfold SurveySheet.languageAt? at hat ⊢
  unfold ChoicesSheet.languageAt? at hotherAt ⊢
  rw [hsurvey] at hat ⊢
  rw [hchoicesLabel] at hotherAt ⊢
  obtain ⟨someColumn, hat⟩ := hat
  obtain ⟨cluster, hsome, hat⟩ := Option.bind_eq_some_iff.1 hat
  have hfound : table.header.cluster? "label" = some cluster := hlabel.symm.trans hsome
  obtain ⟨column, hcolumn, htext⟩ := Cluster.exists_column_of_mem_languages hfound
    ((Header.mem_languages_iff hfound).2 ⟨someColumn, hat⟩)
  obtain ⟨other, hother, hotherText⟩ := Cluster.exists_column_of_mem_languages hotherFound
    ((Header.mem_languages_iff hotherFound).2 hotherAt)
  have hlabelText (row : Row) :
      (SurveyColumns.localized columns.label row).text? language = row.text column := by
    rw [show columns.label = some cluster from hsome]
    exact htext row
  have hanswer {q : Question} (hq : .question q ∈ (ofForm form options).items.events)
      {answer : Answer} (hm : answer ∈ q.answers) :=
    exists_choiceRow_of_answer hq hchoices hchoicesColumns hchoiceRows hotherText hm
  refine ⟨column, other, ?_, hother, fun q hq =>
    exists_surveyRow_of_question hq hcolumns hrows hlabelText, fun q hq answer => hanswer hq,
    fun q hq id hid => ?_⟩
  · show (columns.label.bind fun cluster => cluster.languageAt? column) = some language
    rw [show columns.label = some cluster from hsome]
    exact hcolumn
  · obtain ⟨answer, hfound⟩ := Option.isSome_iff_exists.1 hid
    obtain rfl : answer.id = id := of_decide_eq_true (List.find?_some hfound :)
    obtain ⟨row, hrow, hname, hlabel⟩ := hanswer hq (List.mem_of_find?_eq_some hfound)
    exact ⟨row, hrow, hname, fun text hcell lookup =>
      Relevance.Reader.answerSegment_of_text? hfound (hlabel.trans hcell)⟩

/-- A label column of the survey and one of the choices have the same language exactly when their
namings agree. The languages in common are those that both have, and labels in such a language come
from one column of the survey and one of the choices. -/
theorem Form.sharedNames_ofWorkbook {workbook : Workbook} {form : Form} {choices : ChoicesSheet}
    (h : ofWorkbook workbook = .ok form) (hchoices : form.choices = some choices)
    (options : Options) :
    form.SharesNames choices ∧
      ∃ worksheet table choicesWorksheet choicesTable,
        (workbook.worksheet? SheetKind.survey.title = some worksheet ∧
          worksheet.table .survey = .ok table ∧ table.header = form.survey.header) ∧
        (workbook.worksheet? SheetKind.choices.title = some choicesWorksheet ∧
          choicesWorksheet.table .choices = .ok choicesTable ∧
          choicesTable.header = choices.header) ∧
        ∀ language ∈ (Survey.ofForm form options).languages.inCommon, ∃ column other,
          form.survey.languageAt? column = some language ∧
          choices.languageAt? other = some language ∧
          (Survey.ofForm form options).LabelledFrom options language table column choicesTable
            other := by
  obtain ⟨⟨worksheet, hworksheet, hread⟩, hchoicesSheet⟩ := worksheets_of_ofWorkbook h
  obtain ⟨choicesWorksheet, hchoicesWorksheet, hchoicesRead⟩ := hchoicesSheet choices hchoices
  obtain ⟨table, columns, htable, hcolumns, hsurvey⟩ := SurveySheet.ofWorksheet_eq_ok_iff.1 hread
  obtain ⟨choicesTable, choicesColumns, hchoicesTable, hchoicesColumns, hsheet⟩ :=
    ChoicesSheet.ofWorksheet_eq_ok_iff.1 hchoicesRead
  obtain ⟨-, hlabel⟩ := SurveyColumns.find_eq_ok hcolumns
  obtain ⟨-, hchoicesLabel⟩ := ChoicesColumns.find_eq_ok hchoicesColumns
  have hshares : form.SharesNames choices :=
    sharesNames hchoices (by rw [hsurvey]; exact hlabel) (by rw [hsheet]; exact hchoicesLabel)
  refine ⟨hshares, worksheet, table, choicesWorksheet, choicesTable,
    ⟨hworksheet, htable, by rw [hsurvey]⟩, ⟨hchoicesWorksheet, hchoicesTable, by rw [hsheet]⟩,
    fun language hm => ?_⟩
  obtain ⟨hat, hotherAt⟩ := (hshares.inCommon language).1 hm
  exact Survey.exists_labelledFrom hcolumns hchoicesColumns hsurvey hchoices hsheet options hat
    hotherAt

/-! ## Suffixes that decide nothing -/

/-- No suffix starts with a letter, and the choices have the suffixes of the survey in another
order. -/
def countedWorkbook : Workbook :=
  ⟨[.ofTexts "survey"
      [["type", "name", "relevant", "label::1", "label::2"],
        ["select_one fruits", "fruit", "", "Which fruit?", "Welches Obst?"]],
    .ofTexts "choices"
      [["list_name", "name", "label::2", "label::1"],
        ["fruits", "apple", "Apfel", "Apple"]]]⟩

/-- Suffix `1` of the survey has the language of suffix `2` of the choices, and not that of suffix
`1`. -/
theorem languageAt?_countedWorkbook :
    ∃ form choices, Form.ofWorkbook countedWorkbook = .ok form ∧ form.choices = some choices ∧
      (3, "label::1", "1") ∈ form.survey.header.tails "label" ∧
      (2, "label::2", "2") ∈ choices.header.tails "label" ∧
      (3, "label::1", "1") ∈ choices.header.tails "label" ∧
      form.survey.languageAt? 3 = some (.ofLabel "Language 01") ∧
      choices.languageAt? 2 = some (.ofLabel "Language 01") ∧
      choices.languageAt? 3 = some (.ofLabel "Language 02") := by
  have hform : ∃ form, Form.ofWorkbook countedWorkbook = .ok form ∧
      form.choices.any (fun choices =>
        (3, "label::1", "1") ∈ form.survey.header.tails "label" ∧
        (2, "label::2", "2") ∈ choices.header.tails "label" ∧
        (3, "label::1", "1") ∈ choices.header.tails "label" ∧
        form.survey.languageAt? 3 = some (.ofLabel "Language 01") ∧
        choices.languageAt? 2 = some (.ofLabel "Language 01") ∧
        choices.languageAt? 3 = some (.ofLabel "Language 02")) = true :=
    exists_ok_of_any (by decide +kernel)
  obtain ⟨form, hform, hany⟩ := hform
  obtain ⟨choices, hchoices, hfacts⟩ := Option.any_eq_true _ _ |>.1 hany
  exact ⟨form, choices, hform, hchoices, of_decide_eq_true hfacts⟩

/-- One suffix of the survey is a number, and a suffix of the choices is the name made of it. -/
def namedWorkbook : Workbook :=
  ⟨[.ofTexts "survey"
      [["type", "name", "relevant", "label::English", "label::1"],
        ["select_one fruits", "fruit", "", "Which fruit?", "Welches Obst?"]],
    .ofTexts "choices"
      [["list_name", "name", "label::L 1", "label::English"],
        ["fruits", "apple", "Apfel", "Apple"]]]⟩

theorem sharesNames_namedWorkbook :
    ∃ form choices, Form.ofWorkbook namedWorkbook = .ok form ∧ form.choices = some choices ∧
      form.SharesNames choices ∧
      form.languages.inCommon = [.ofLabel "English", .ofLabel "L 1"] ∧
      (Survey.ofForm form {}).items.questions.length = 1 := by
  have hform : ∃ form, Form.ofWorkbook namedWorkbook = .ok form ∧
      (form.choices.isSome = true ∧
        form.languages.inCommon = [.ofLabel "English", .ofLabel "L 1"] ∧
        (Survey.ofForm form {}).items.questions.length = 1) :=
    exists_ok_of_any (by decide +kernel)
  obtain ⟨form, hform, hsome, hfacts⟩ := hform
  obtain ⟨choices, hchoices⟩ := Option.isSome_iff_exists.1 hsome
  exact ⟨form, choices, hform, hchoices, (Form.sharedNames_ofWorkbook hform hchoices {}).1, hfacts⟩

end Questionnaire
