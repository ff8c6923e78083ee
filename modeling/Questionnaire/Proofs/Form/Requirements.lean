import Questionnaire.Survey

/-!
# What is asked of a workbook

A workbook must have a `survey` worksheet. Each of the three worksheets that is there must have a
header row and content rows, and the header some columns. The requirements stand in an order: a
workbook that meets all of them is converted, and the error of any other workbook is that of the
first requirement that it does not meet.

Main definitions:

* `Workbook.requirements`: what is asked of a workbook, in order.
* `FirstUnmet`: the error of the first requirement that does not hold.

Results:

* `Settles.bind`: requirements are checked one after the other.
* `Form.settles_ofWorkbook`: a form is read exactly when its workbook meets the requirements.
* `Survey.ofWorkbook_firstUnmet`: so is a survey, and no header row is ever said to be missing.
-/

namespace Questionnaire

/-! ## Requirements -/

/-- What is asked, with the error if it does not hold. -/
structure Requirement where
  holds : Prop
  fault : FormError

/-- The error is that of the first requirement that does not hold. -/
inductive FirstUnmet : List Requirement → FormError → Prop where
  | here {requirement : Requirement} {others : List Requirement} (h : ¬ requirement.holds) :
    FirstUnmet (requirement :: others) requirement.fault
  | later {requirement : Requirement} {others : List Requirement} {fault : FormError}
    (h : requirement.holds) (hothers : FirstUnmet others fault) :
    FirstUnmet (requirement :: others) fault

/-- A column that a worksheet may need. -/
inductive ColumnNeed where
  | titled (title : String)
  /-- Any of the titles will do. -/
  | anyTitled (titles : List String)
  /-- The stem as a title, alone or with a language. -/
  | clustered (stem : String)

/-- The row has the title in one of its cells. -/
def Row.HasTitle (row : Row) (title : String) : Prop :=
  ∃ cell ∈ row.cells, cellText cell = some title

def ColumnNeed.MetBy (header : Row) : ColumnNeed → Prop
  | .titled title => header.HasTitle title
  | .anyTitled titles => ∃ title ∈ titles, header.HasTitle title
  | .clustered stem => header.HasTitle stem ∨ ∃ tail, header.HasTitle (stem ++ "::" ++ tail)

def ColumnNeed.fault (sheet : SheetKind) : ColumnNeed → FormError
  | .titled title => .columnMissing title sheet
  | .anyTitled titles => .synonymsMissing titles sheet
  | .clustered stem => .clusterMissing stem sheet

/-- The columns that a worksheet needs, in the order in which they are looked for. -/
def SheetKind.needs : SheetKind → List ColumnNeed
  | .survey => [.titled "type", .titled "name", .titled "relevant"]
  | .choices => [.anyTitled ["list_name", "list name"], .titled "name", .clustered "label"]
  | .settings => []

/-- What is asked of a worksheet: that some row is filled, that a second one is, and that the first
one has the columns. -/
def Worksheet.requirements (worksheet : Worksheet) (sheet : SheetKind) : List Requirement :=
  [⟨worksheet.filledRows ≠ [], .worksheetBlank sheet⟩,
    ⟨2 ≤ worksheet.filledRows.length, .contentMissing sheet⟩]
  ++ sheet.needs.map fun need =>
    ⟨∃ header ∈ worksheet.filledRows.head?, need.MetBy header, need.fault sheet⟩

namespace Workbook

/-- The worksheets that the workbook lacks. -/
def absent (workbook : Workbook) : List SheetKind :=
  [SheetKind.survey, .choices, .settings].filter fun sheet =>
    workbook.worksheets.all fun worksheet => !Text.contains worksheet.name sheet.title

/-- The error of a workbook without `survey` worksheet, which names all that it lacks. -/
def absentFault (workbook : Workbook) : FormError :=
  if workbook.absent = [.survey] then .worksheetMissing .survey
  else .worksheetsMissing workbook.absent

/-- What is asked of a worksheet if it is there. -/
def sheetRequirements (workbook : Workbook) (sheet : SheetKind) : List Requirement :=
  match workbook.worksheet? sheet.title with
  | none => []
  | some worksheet => worksheet.requirements sheet

/-- All that is asked of a workbook. -/
def requirements (workbook : Workbook) : List Requirement :=
  [⟨SheetKind.survey ∉ workbook.absent, workbook.absentFault⟩]
  ++ (workbook.sheetRequirements .survey ++ (workbook.sheetRequirements .choices
  ++ workbook.sheetRequirements .settings))

end Workbook

/-! ## Checking requirements -/

theorem FirstUnmet.exists_mem {requirements : List Requirement} {fault : FormError}
    (h : FirstUnmet requirements fault) :
    ∃ requirement ∈ requirements, ¬ requirement.holds ∧ requirement.fault = fault := by
  induction h with
  | here h => exact ⟨_, List.mem_cons_self, h, rfl⟩
  | later _ _ ih =>
    obtain ⟨requirement, hm, h⟩ := ih
    exact ⟨requirement, List.mem_cons_of_mem _ hm, h⟩

theorem FirstUnmet.unique {requirements : List Requirement} {fault other : FormError}
    (h : FirstUnmet requirements fault) (hother : FirstUnmet requirements other) :
    fault = other := by
  induction h with
  | here h =>
    cases hother with
    | here _ => rfl
    | later hholds _ => exact absurd hholds h
  | later h _ ih =>
    cases hother with
    | here hunmet => exact absurd h hunmet
    | later _ hothers => exact ih hothers

theorem FirstUnmet.append_right {requirements : List Requirement} {fault : FormError}
    (h : FirstUnmet requirements fault) (others : List Requirement) :
    FirstUnmet (requirements ++ others) fault := by
  induction h with
  | here h => exact .here h
  | later h _ ih => exact .later h ih

theorem FirstUnmet.append_left {requirements others : List Requirement} {fault : FormError}
    (hall : ∀ requirement ∈ requirements, requirement.holds) (h : FirstUnmet others fault) :
    FirstUnmet (requirements ++ others) fault := by
  induction requirements with
  | nil => exact h
  | cons first rest ih =>
    refine .later (hall first List.mem_cons_self) (ih fun requirement hm => ?_)
    exact hall requirement (List.mem_cons_of_mem _ hm)

/-- The result is there if all requirements hold, and otherwise is the error of the first that does
not. -/
def Settles {α : Type} (requirements : List Requirement) : Except FormError α → Prop
  | .ok _ => ∀ requirement ∈ requirements, requirement.holds
  | .error fault => FirstUnmet requirements fault

namespace Settles

variable {α β : Type} {requirements others : List Requirement} {result : Except FormError α}

theorem nil (a : α) : Settles [] (.ok a) := by
  intro requirement hm
  cases hm

theorem single {holds : Prop} {fault : FormError}
    (h : (∃ a, result = .ok a ∧ holds) ∨ (result = .error fault ∧ ¬ holds)) :
    Settles [⟨holds, fault⟩] result := by
  obtain ⟨a, rfl, h⟩ | ⟨rfl, h⟩ := h
  · intro requirement hm
    obtain rfl := List.mem_singleton.1 hm
    exact h
  · exact .here h

theorem cons {holds : Prop} {fault : FormError} (hholds : holds) (h : Settles others result) :
    Settles (⟨holds, fault⟩ :: others) result := by
  cases result with
  | error other => exact .later hholds h
  | ok a =>
    intro requirement hm
    obtain rfl | hm := List.mem_cons.1 hm
    · exact hholds
    · exact h requirement hm

/-- Requirements are checked one after the other. -/
theorem bind {next : α → Except FormError β} (h : Settles requirements result)
    (hnext : ∀ a, result = .ok a → Settles others (next a)) :
    Settles (requirements ++ others) (result >>= next) := by
  cases result with
  | error fault => exact FirstUnmet.append_right h others
  | ok a =>
    have hnext := hnext a rfl
    show Settles (requirements ++ others) (next a)
    cases hb : next a with
    | error fault =>
      rw [hb] at hnext
      exact FirstUnmet.append_left h hnext
    | ok b =>
      rw [hb] at hnext
      intro requirement hm
      obtain hm | hm := List.mem_append.1 hm
      · exact h requirement hm
      · exact hnext requirement hm

theorem map (f : α → β) (h : Settles requirements result) :
    Settles requirements (result.map f) := by
  cases result with
  | error fault => exact h
  | ok a => exact h

/-- Nothing more is asked after the last requirement. -/
theorem bind_pure (f : α → β) (h : Settles requirements result) :
    Settles requirements (result >>= fun a => pure (f a)) := by
  cases result with
  | error fault => exact h
  | ok a => exact h

theorem isOk_iff (h : Settles requirements result) :
    (∃ a, result = .ok a) ↔ ∀ requirement ∈ requirements, requirement.holds := by
  cases result with
  | error fault =>
    obtain ⟨requirement, hm, hunmet, -⟩ := FirstUnmet.exists_mem h
    constructor
    · rintro ⟨a, ha⟩
      cases ha
    · exact fun hall => absurd (hall requirement hm) hunmet
  | ok a => exact ⟨fun _ => h, fun _ => ⟨a, rfl⟩⟩

theorem eq_error_iff (h : Settles requirements result) (fault : FormError) :
    result = .error fault ↔ FirstUnmet requirements fault := by
  cases result with
  | error other =>
    constructor
    · intro heq
      obtain rfl := Except.error.inj heq
      exact h
    · exact fun hunmet => congrArg Except.error (FirstUnmet.unique h hunmet)
  | ok a =>
    constructor
    · intro heq
      cases heq
    · intro hunmet
      obtain ⟨requirement, hm, hunmet, -⟩ := hunmet.exists_mem
      exact absurd (h requirement hm) hunmet

end Settles

/-! ## Columns -/

namespace Header

theorem exists_mem_titled_iff (sheet : SheetKind) (row : Row) (title : String) :
    (∃ column, (column, title) ∈ (ofRow sheet row).titled) ↔ row.HasTitle title := by
  simp only [mem_titled_iff, ofRow, Row.HasTitle, ← List.mem_iff_getElem?, List.mem_map]

/-- A title is found exactly when the header row has it. -/
theorem position?_isSome_iff (sheet : SheetKind) (row : Row) (title : String) :
    ((ofRow sheet row).position? title).isSome = true ↔ row.HasTitle title := by
  rw [← exists_mem_titled_iff sheet, position?, Option.isSome_map, List.find?_isSome]
  constructor
  · rintro ⟨⟨column, other⟩, hm, heq⟩
    obtain rfl : other = title := of_decide_eq_true heq
    exact ⟨column, hm⟩
  · rintro ⟨column, hm⟩
    exact ⟨(column, title), hm, decide_eq_true rfl⟩

theorem settles_column (sheet : SheetKind) (row : Row) (title : String) :
    Settles [⟨row.HasTitle title, .columnMissing title sheet⟩]
      ((ofRow sheet row).column title) := by
  refine .single ?_
  rw [← position?_isSome_iff sheet]
  unfold Header.column
  cases (ofRow sheet row).position? title with
  | none => exact .inr ⟨rfl, Bool.false_ne_true⟩
  | some column => exact .inl ⟨column, rfl, rfl⟩

theorem settles_anyColumn (sheet : SheetKind) (row : Row) (titles : List String) :
    Settles [⟨∃ title ∈ titles, row.HasTitle title, .synonymsMissing titles sheet⟩]
      ((ofRow sheet row).anyColumn titles) := by
  have hany : ((ofRow sheet row).anyColumn? titles).isSome = true ↔
      ∃ title ∈ titles, row.HasTitle title := by
    simp only [anyColumn?, List.findSome?_isSome_iff, position?_isSome_iff]
  refine .single ?_
  rw [← hany]
  unfold anyColumn
  cases (ofRow sheet row).anyColumn? titles with
  | none => exact .inr ⟨rfl, Bool.false_ne_true⟩
  | some column => exact .inl ⟨column, rfl, rfl⟩

end Header

/-- A title belongs to a cluster when it is the stem or goes on behind stem and separator. -/
theorem clusterTail?_isSome_iff {stem title : String} :
    (clusterTail? stem title).isSome ↔ title = stem ∨ ∃ tail, title = stem ++ "::" ++ tail := by
  unfold clusterTail?
  by_cases h : title = stem
  · simp [h]
  · rw [if_neg h, Option.isSome_map, Option.isSome_iff_exists]
    simp only [h, false_or, Text.dropPrefix?_eq_some_iff, clusterSeparator]
    constructor
    · rintro ⟨tail, htail⟩
      refine ⟨String.ofList tail, String.toList_inj.1 ?_⟩
      rw [htail]
      simp only [String.toList_append, String.toList_ofList]
    · rintro ⟨tail, rfl⟩
      exact ⟨tail.toList, String.toList_append ..⟩

namespace Header

theorem tails_ne_nil_iff {header : Header} {stem : String} :
    header.tails stem ≠ [] ↔
      ∃ column title, (column, title) ∈ header.titled ∧
        (clusterTail? stem title).isSome = true := by
  constructor
  · intro h
    obtain ⟨entry, hm⟩ := List.exists_mem_of_ne_nil _ h
    obtain ⟨⟨column, title⟩, hm, hentry⟩ := List.mem_filterMap.1 hm
    obtain ⟨tail, htail, -⟩ := Option.map_eq_some_iff.1 hentry
    exact ⟨column, title, hm, by rw [htail]; rfl⟩
  · rintro ⟨column, title, hm, hsome⟩
    obtain ⟨tail, htail⟩ := Option.isSome_iff_exists.1 hsome
    have hentry : (clusterTail? stem title).map (fun tail => (column, title, tail)) =
        some (column, title, tail) := by
      rw [htail]
      rfl
    exact List.ne_nil_of_mem (List.mem_filterMap.2 ⟨(column, title), hm, hentry⟩)

theorem settles_cluster (sheet : SheetKind) (row : Row) (stem : String) :
    Settles [⟨row.HasTitle stem ∨ ∃ tail, row.HasTitle (stem ++ "::" ++ tail),
      .clusterMissing stem sheet⟩] ((ofRow sheet row).cluster stem) := by
  have hfound : (row.HasTitle stem ∨ ∃ tail, row.HasTitle (stem ++ "::" ++ tail)) ↔
      (ofRow sheet row).tails stem ≠ [] := by
    simp only [tails_ne_nil_iff, clusterTail?_isSome_iff, ← exists_mem_titled_iff sheet]
    constructor
    · rintro (⟨column, hm⟩ | ⟨tail, column, hm⟩)
      · exact ⟨column, _, hm, .inl rfl⟩
      · exact ⟨column, _, hm, .inr ⟨tail, rfl⟩⟩
    · rintro ⟨column, title, hm, rfl | ⟨tail, rfl⟩⟩
      · exact .inl ⟨column, hm⟩
      · exact .inr ⟨tail, column, hm⟩
  refine .single ?_
  rw [hfound]
  unfold cluster cluster?
  cases htails : (ofRow sheet row).tails stem with
  | nil => exact .inr ⟨rfl, fun h => h rfl⟩
  | cons entry rest => exact .inl ⟨_, rfl, List.cons_ne_nil _ _⟩

end Header

/-! ## Worksheets -/

/-- What is asked of a header row. -/
def SheetKind.headerRequirements (sheet : SheetKind) (header : Row) : List Requirement :=
  sheet.needs.map fun need => ⟨need.MetBy header, need.fault sheet⟩

theorem SurveyColumns.settles_find (header : Row) :
    Settles (SheetKind.survey.headerRequirements header)
      (SurveyColumns.find (.ofRow .survey header)) := by
  refine .bind (Header.settles_column .survey header "type") fun type _ => ?_
  refine .bind (Header.settles_column .survey header "name") fun name _ => ?_
  exact .bind_pure _ (Header.settles_column .survey header "relevant")

theorem ChoicesColumns.settles_find (header : Row) :
    Settles (SheetKind.choices.headerRequirements header)
      (ChoicesColumns.find (.ofRow .choices header)) := by
  refine .bind (Header.settles_anyColumn .choices header ["list_name", "list name"])
    fun list _ => ?_
  refine .bind (Header.settles_column .choices header "name") fun name _ => ?_
  exact .bind_pure _ (Header.settles_cluster .choices header "label")

/-- A worksheet is read as a table and then through its columns. -/
theorem Worksheet.settles_table {α : Type} (worksheet : Worksheet) (sheet : SheetKind)
    {read : SheetTable → Except FormError α}
    (h : ∀ header table, table.header = .ofRow sheet header →
      Settles (sheet.headerRequirements header) (read table)) :
    Settles (worksheet.requirements sheet) (worksheet.table sheet >>= read) := by
  unfold Worksheet.requirements table
  cases worksheet.filledRows with
  | nil => exact .here fun hne => hne rfl
  | cons header content =>
    have hfilled : header :: content ≠ [] := List.cons_ne_nil _ _
    cases content with
    | nil => exact .later hfilled (.here (by simp))
    | cons first others =>
      have hread := h header ⟨.ofRow sheet header, first, others⟩ rfl
      have hneeds : (sheet.needs.map fun need => (⟨∃ row ∈ (header :: first :: others).head?,
          need.MetBy row, need.fault sheet⟩ : Requirement)) = sheet.headerRequirements header := by
        simp [SheetKind.headerRequirements]
      rw [hneeds]
      exact .cons hfilled (.cons (by simp) hread)

theorem SurveySheet.settles_ofWorksheet (worksheet : Worksheet) :
    Settles (worksheet.requirements .survey) (SurveySheet.ofWorksheet worksheet) := by
  refine worksheet.settles_table .survey fun header table hheader => ?_
  rw [hheader]
  exact .bind_pure _ (SurveyColumns.settles_find header)

theorem ChoicesSheet.settles_ofWorksheet (worksheet : Worksheet) :
    Settles (worksheet.requirements .choices) (ChoicesSheet.ofWorksheet worksheet) := by
  refine worksheet.settles_table .choices fun header table hheader => ?_
  rw [hheader]
  exact .bind_pure _ (ChoicesColumns.settles_find header)

theorem Settings.settles_ofWorksheet (worksheet : Worksheet) :
    Settles (worksheet.requirements .settings) (Settings.ofWorksheet worksheet) :=
  worksheet.settles_table .settings fun _ _ _ => .nil _

/-! ## Workbooks -/

theorem Form.settles_readOptional {α : Type} {read : Worksheet → Except FormError α}
    {sheet : SheetKind} (h : ∀ worksheet, Settles (worksheet.requirements sheet) (read worksheet))
    (workbook : Workbook) :
    Settles (workbook.sheetRequirements sheet)
      (readOptional read (workbook.worksheet? sheet.title)) := by
  unfold Workbook.sheetRequirements readOptional
  cases workbook.worksheet? sheet.title with
  | none => exact .nil _
  | some worksheet => exact (h worksheet).map some

theorem Workbook.mem_absent_iff {workbook : Workbook} {sheet : SheetKind} :
    sheet ∈ workbook.absent ↔ workbook.worksheet? sheet.title = none := by
  have hall : sheet ∈ [SheetKind.survey, .choices, .settings] := by cases sheet <;> decide
  simp [absent, worksheet?, hall]

/-- The error of a workbook without `survey` worksheet names all that it lacks. -/
theorem Form.surveyMissing_eq {workbook : Workbook}
    (h : workbook.worksheet? SheetKind.survey.title = none) :
    surveyMissing (workbook.worksheet? SheetKind.choices.title)
      (workbook.worksheet? SheetKind.settings.title) = workbook.absentFault := by
  have habsent : workbook.absent = [SheetKind.survey, .choices, .settings].filter fun sheet =>
      (workbook.worksheet? sheet.title).isNone := by
    refine List.filter_congr fun sheet _ => ?_
    rw [Bool.eq_iff_iff, Option.isNone_iff_eq_none, Workbook.worksheet?, List.find?_eq_none]
    simp
  unfold Workbook.absentFault
  rw [habsent]
  simp only [List.filter_cons, h]
  cases workbook.worksheet? SheetKind.choices.title <;>
    cases workbook.worksheet? SheetKind.settings.title <;> rfl

theorem Form.settles_ofWorkbook (workbook : Workbook) :
    Settles workbook.requirements (Form.ofWorkbook workbook) := by
  have hchoices := settles_readOptional ChoicesSheet.settles_ofWorksheet workbook
  have hsettings := settles_readOptional Settings.settles_ofWorksheet workbook
  unfold ofWorkbook Workbook.requirements
  cases hsurvey : workbook.worksheet? SheetKind.survey.title with
  | none =>
    have hmem : SheetKind.survey ∈ workbook.absent := Workbook.mem_absent_iff.2 hsurvey
    dsimp only
    rw [surveyMissing_eq hsurvey]
    exact .here fun hnot => hnot hmem
  | some worksheet =>
    have hnot : SheetKind.survey ∉ workbook.absent := by
      rw [Workbook.mem_absent_iff, hsurvey]
      exact Option.some_ne_none _
    have hneeds : workbook.sheetRequirements .survey = worksheet.requirements .survey := by
      rw [Workbook.sheetRequirements, hsurvey]
    rw [hneeds]
    refine .cons hnot ?_
    refine (SurveySheet.settles_ofWorksheet worksheet).bind fun survey _ => ?_
    exact hchoices.bind fun choices _ => .bind_pure _ hsettings

/-! ## Surveys -/

theorem Worksheet.fault_ne_headerMissing {worksheet : Worksheet} {sheet other : SheetKind}
    {requirement : Requirement} (h : requirement ∈ worksheet.requirements sheet) :
    requirement.fault ≠ .headerMissing other := by
  simp only [requirements, List.mem_append, List.mem_cons, List.not_mem_nil, or_false,
    List.mem_map] at h
  obtain (rfl | rfl) | ⟨need, -, rfl⟩ := h
  · exact FormError.noConfusion
  · exact FormError.noConfusion
  · cases need <;> exact FormError.noConfusion

theorem Workbook.fault_ne_headerMissing {workbook : Workbook} {requirement : Requirement}
    (h : requirement ∈ workbook.requirements) (sheet : SheetKind) :
    requirement.fault ≠ .headerMissing sheet := by
  have hsheet (other : SheetKind) (hm : requirement ∈ workbook.sheetRequirements other) :
      requirement.fault ≠ .headerMissing sheet := by
    unfold sheetRequirements at hm
    split at hm
    · cases hm
    · exact Worksheet.fault_ne_headerMissing hm
  simp only [requirements, List.mem_append, List.mem_singleton] at h
  obtain rfl | h | h | h := h
  · show workbook.absentFault ≠ _
    unfold absentFault
    split <;> exact FormError.noConfusion
  · exact hsheet .survey h
  · exact hsheet .choices h
  · exact hsheet .settings h

/-- A workbook is converted exactly when it meets all requirements, and its error is that of the
first one that it does not meet. No workbook is said to have a worksheet without header row. -/
theorem Survey.ofWorkbook_firstUnmet (workbook : Workbook) (options : Options) :
    ((∃ survey, Survey.ofWorkbook workbook options = .ok survey) ↔
        ∀ requirement ∈ workbook.requirements, requirement.holds) ∧
      (∀ fault, Survey.ofWorkbook workbook options = .error fault ↔
        FirstUnmet workbook.requirements fault) ∧
      ∀ sheet, Survey.ofWorkbook workbook options ≠ .error (.headerMissing sheet) := by
  have hsettles : Settles workbook.requirements (Survey.ofWorkbook workbook options) :=
    (Form.settles_ofWorkbook workbook).map _
  refine ⟨hsettles.isOk_iff, hsettles.eq_error_iff, fun sheet herror => ?_⟩
  obtain ⟨requirement, hm, -, hfault⟩ := ((hsettles.eq_error_iff _).1 herror).exists_mem
  exact Workbook.fault_ne_headerMissing hm sheet hfault

end Questionnaire
