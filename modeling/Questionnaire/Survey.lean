import Questionnaire.Assembly
import Questionnaire.Relevance.Phrasing

/-!
# Surveys

A survey is a converted form: its settings, its languages, and its items with every condition put
into words. Questions are looked up among the items of the whole form.

Main definitions:

* `Forest.withConditions`: the items with their conditions in words.
* `Survey.ofForm`, `Survey.ofWorkbook`: the conversion of a form.
-/

namespace Questionnaire

structure Survey where
  formTitle : Option String
  formId : Option String
  version : Option String
  defaultLanguage : Option Language
  style : Option Style
  instanceName : Option String
  publicKey : Option String
  submissionUrl : Option String
  languages : LanguagesAvailable
  items : Forest
  warnings : Warnings
  deriving DecidableEq

/-! ## Conditions -/

/-- The condition in words, if there is one. -/
def Condition.phrase (lookup : Forest) (languages : List Language) (options : Options)
    (condition : Condition) : Condition :=
  match condition.source with
  | none => .ofSource none
  | some source =>
    let phrasing := Relevance.phrase lookup languages options source
    ⟨some source, some phrasing.text, phrasing.steps⟩

/-- The items with their conditions in words, questions being looked up in `lookup`. -/
def Forest.withConditions (languages : List Language) (options : Options) (items lookup : Forest) :
    Forest :=
  match items with
  | .nil => .nil
  | .group g inner rest =>
    .group { g with condition := g.condition.phrase lookup languages options }
      (inner.withConditions languages options lookup)
      (rest.withConditions languages options lookup)
  | .question q rest =>
    .question { q with condition := q.condition.phrase lookup languages options }
      (rest.withConditions languages options lookup)

/-! ## Conversion -/

namespace Form

/-- The languages of the label and hint columns. -/
def languages (form : Form) : LanguagesAvailable :=
  .compute (form.survey.label.map Cluster.languages) (form.survey.hint.map Cluster.languages)
    (form.choices.map fun choices => choices.label.languages)

end Form

namespace Survey

def ofForm (form : Form) (options : Options) : Survey :=
  let languages := form.languages
  let assembled := form.assemble options
  let settings := form.settings.getD {}
  { formTitle := settings.formTitle
    formId := settings.formId
    version := settings.version
    defaultLanguage := settings.defaultLanguage.bind languages.withLabel?
    style := settings.style.bind Style.ofText?
    instanceName := settings.instanceName
    publicKey := settings.publicKey
    submissionUrl := settings.submissionUrl
    languages := languages
    items := assembled.items.withConditions (options.languages.select languages) options
      assembled.items
    warnings := assembled.warnings }

/-- Converts the form of a workbook. -/
def ofWorkbook (workbook : Workbook) (options : Options) : Except FormError Survey :=
  (Form.ofWorkbook workbook).map fun form => ofForm form options

/-! ## Queries -/

/-- The default language if it is one of the form, and otherwise the first language. -/
def languageShownFirst (survey : Survey) : Option Language :=
  match survey.defaultLanguage with
  | some language =>
    if language ∈ survey.languages.all then some language else survey.languages.all.head?
  | none => survey.languages.all.head?

def hasAgeGroups (survey : Survey) : Bool :=
  survey.items.events.any fun event => event.ageGroup?.isSome

end Survey

end Questionnaire
