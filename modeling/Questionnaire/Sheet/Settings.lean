import Questionnaire.Sheet.Table

/-!
# The settings worksheet

The first content row describes the form. Every column is optional.

Main definitions:

* `Style.ofText?`: the layouts that a form may ask for.
* `Settings.ofWorksheet`: the settings of a form.
-/

namespace Questionnaire

/-- The layout of a form. -/
inductive Style where
  | pages
  | themeGrid
  | themeFormhub
  deriving DecidableEq

def Style.text : Style → String
  | .pages => "pages"
  | .themeGrid => "theme-grid"
  | .themeFormhub => "theme-formhub"

/-- The style of exactly this text. -/
def Style.ofText? (text : String) : Option Style :=
  [Style.pages, .themeGrid, .themeFormhub].find? fun style => style.text = text

theorem Style.ofText?_text (style : Style) : Style.ofText? style.text = some style := by
  cases style <;> decide

structure Settings where
  formTitle : Option String := none
  formId : Option String := none
  version : Option String := none
  defaultLanguage : Option String := none
  style : Option String := none
  instanceName : Option String := none
  publicKey : Option String := none
  submissionUrl : Option String := none
  deriving DecidableEq

def Settings.ofWorksheet (worksheet : Worksheet) : Except FormError Settings := do
  let table ← worksheet.table .settings
  let cell (title : String) : Option String :=
    (table.header.anyColumn? [title]).bind table.first.text
  return {
    formTitle := cell "form_title"
    formId := cell "form_id"
    version := cell "version"
    defaultLanguage := cell "default_language"
    style := cell "style"
    instanceName := cell "instance_name"
    publicKey := cell "public_key"
    submissionUrl := cell "submission_url" }

end Questionnaire
