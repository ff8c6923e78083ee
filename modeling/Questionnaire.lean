import Questionnaire.Assembly
import Questionnaire.Assembly.Nesting
import Questionnaire.Assembly.Reading
import Questionnaire.Calendar
import Questionnaire.Command.Arguments
import Questionnaire.Command.Configuration
import Questionnaire.Command.Conversion
import Questionnaire.Command.Error
import Questionnaire.Command.Switch
import Questionnaire.Digest.Sha256
import Questionnaire.Document.Survey
import Questionnaire.Document.Workbook
import Questionnaire.Form
import Questionnaire.Form.Error
import Questionnaire.Form.File
import Questionnaire.Header
import Questionnaire.Header.Cluster
import Questionnaire.Item.AgeGroup
import Questionnaire.Item.Forest
import Questionnaire.Item.Question
import Questionnaire.Json.Decoding
import Questionnaire.Json.Lexeme
import Questionnaire.Json.Tree
import Questionnaire.Json.Value
import Questionnaire.Language
import Questionnaire.Language.Available
import Questionnaire.Language.Localized
import Questionnaire.Main
import Questionnaire.Number.Binary64
import Questionnaire.Number.Shortest
import Questionnaire.Options
import Questionnaire.QuestionType
import Questionnaire.QuestionType.Specification
import Questionnaire.Relevance.Lexer
import Questionnaire.Relevance.Markup
import Questionnaire.Relevance.Phrasing
import Questionnaire.Relevance.Piece
import Questionnaire.Relevance.Reduction
import Questionnaire.Relevance.Rendering
import Questionnaire.Relevance.Token
import Questionnaire.Relevance.Wording
import Questionnaire.Sheet.Choices
import Questionnaire.Sheet.Kind
import Questionnaire.Sheet.Settings
import Questionnaire.Sheet.Survey
import Questionnaire.Sheet.Table
import Questionnaire.Spreadsheet.Cell
import Questionnaire.Spreadsheet.Range
import Questionnaire.Storage
import Questionnaire.Storage.Directory
import Questionnaire.Storage.Path
import Questionnaire.Survey
import Questionnaire.Text.Ascii
import Questionnaire.Text.Blank
import Questionnaire.Text.Casing
import Questionnaire.Text.CharTable
import Questionnaire.Text.Digits
import Questionnaire.Text.Letter
import Questionnaire.Text.Search
import Questionnaire.Text.Words
import Questionnaire.Warning
import Questionnaire.Workbook
import Questionnaire.Proofs.Assembly.OpenGroups
import Questionnaire.Proofs.Assembly.RowOrder
import Questionnaire.Proofs.Relevance.Formula
import Questionnaire.Proofs.Relevance.Meaning
import Questionnaire.Proofs.Relevance.Operators
import Questionnaire.Proofs.QuestionType.Written
import Questionnaire.Proofs.Text.Tidy
import Questionnaire.Proofs.Assembly.Brackets
import Questionnaire.Proofs.Draft.Workbook
import Questionnaire.Proofs.Draft.LabelColumns
import Questionnaire.Proofs.Draft.Worksheets
import Questionnaire.Proofs.Draft.Lines
import Questionnaire.Proofs.Draft.RoundTrip
import Questionnaire.Proofs.Assembly.Unbalanced
import Questionnaire.Proofs.Assembly.RowByRow
import Questionnaire.Proofs.Relevance.Sentence
import Questionnaire.Proofs.Relevance.Lexemes
import Questionnaire.Proofs.Relevance.PlainTokens
import Questionnaire.Proofs.Relevance.Tags
import Questionnaire.Proofs.Relevance.SegmentOrder
import Questionnaire.Proofs.Relevance.WrittenComparisons
import Questionnaire.Proofs.Survey.ComparedAnswers
import Questionnaire.Proofs.Form.Requirements
import Questionnaire.Proofs.Form.Worksheets
import Questionnaire.Proofs.Language.FirstOccurrences
import Questionnaire.Proofs.Survey.LanguageCoverage
import Questionnaire.Proofs.Layout.Content
import Questionnaire.Proofs.Layout.MovedColumns
import Questionnaire.Proofs.Layout.MovedWorksheets
import Questionnaire.Proofs.Layout.Blanks
import Questionnaire.Proofs.Layout.ColumnOrder
import Questionnaire.Proofs.Layout.FramedCells
import Questionnaire.Proofs.Assembly.ChangedQuestions
import Questionnaire.Proofs.Survey.ChangedOptions
import Questionnaire.Proofs.Relevance.Decomposition
import Questionnaire.Proofs.Header.Namings
import Questionnaire.Proofs.Survey.SharedNames
import Questionnaire.Proofs.Relevance.SpacedTokens
import Questionnaire.Proofs.Relevance.NormalForms
import Questionnaire.Proofs.Relevance.Steps
import Questionnaire.Proofs.Relevance.OneLanguage
import Questionnaire.Proofs.Survey.WordedAgain
import Questionnaire.Proofs.Relevance.SameTokens
import Questionnaire.Proofs.Relevance.VisibleText
import Questionnaire.Proofs.Relevance.Seams
import Questionnaire.Proofs.QuestionType.Words
import Questionnaire.Proofs.Assembly.OwnWarnings
import Questionnaire.Proofs.Layout.ListOrder
import Questionnaire.Proofs.Language.InsertionOrder
import Questionnaire.Proofs.Language.LabelSets
import Questionnaire.Proofs.Header.ColumnLanguages
import Questionnaire.Proofs.Sheet.ChoiceCells
import Questionnaire.Proofs.Text.LowerCase
import Questionnaire.Proofs.Language.Identifiers
import Questionnaire.Proofs.Text.Digits
import Questionnaire.Proofs.Calendar.Dates
import Questionnaire.Proofs.Calendar.Moments
import Questionnaire.Proofs.Number.Rounding
import Questionnaire.Proofs.Spreadsheet.DateCells
