import Questionnaire.Text.Search

/-!
# Question types

The types that the `type` column of a form may name. Each has a key, by which it is shown, and
may have other spellings, documented as synonyms or merely understood.

Main definitions:

* `QuestionType`, `QuestionType.all`: the types, in table order.
* `QuestionType.spellings`: every spelling with the type it stands for.

Results:

* `QuestionType.mem_all`: the table is complete.
* `QuestionType.ofSpelling?_key`: a key is read back as its type.
-/

namespace Questionnaire

inductive QuestionType where
  | unknown
  -- about the filling in
  | startTime | endTime | today | deviceId | phoneNumber | username | email | audit
  | startGeopoint | simSerial | subscriberId
  -- asked or shown
  | integer | decimal | range | text | selectOne | selectMultiple | selectOneFromFile
  | selectMultipleFromFile | selectOneExternal | rank | note | geopoint | geotrace | geoshape
  | date | time | dateTime | image | audio | backgroundAudio | video | file | barcode
  | calculate | acknowledge | hidden | xmlExternal
  -- brackets
  | beginGroup | endGroup | beginRepeat | endRepeat
  deriving DecidableEq

namespace QuestionType

/-- The types in table order. -/
def all : List QuestionType :=
  [.unknown, .startTime, .endTime, .today, .deviceId, .phoneNumber, .username, .email, .audit,
   .startGeopoint, .simSerial, .subscriberId, .integer, .decimal, .range, .text, .selectOne,
   .selectMultiple, .selectOneFromFile, .selectMultipleFromFile, .selectOneExternal, .rank,
   .note, .geopoint, .geotrace, .geoshape, .date, .time, .dateTime, .image, .audio,
   .backgroundAudio, .video, .file, .barcode, .calculate, .acknowledge, .hidden, .xmlExternal,
   .beginGroup, .endGroup, .beginRepeat, .endRepeat]

/-- The spelling by which a type is shown. -/
def key : QuestionType → String
  | .unknown => "unknown"
  | .startTime => "start"
  | .endTime => "end"
  | .today => "today"
  | .deviceId => "deviceid"
  | .phoneNumber => "phonenumber"
  | .username => "username"
  | .email => "email"
  | .audit => "audit"
  | .startGeopoint => "start-geopoint"
  | .simSerial => "simserial"
  | .subscriberId => "subscriberid"
  | .integer => "integer"
  | .decimal => "decimal"
  | .range => "range"
  | .text => "text"
  | .selectOne => "select_one"
  | .selectMultiple => "select_multiple"
  | .selectOneFromFile => "select_one_from_file"
  | .selectMultipleFromFile => "select_multiple_from_file"
  | .selectOneExternal => "select_one_external"
  | .rank => "rank"
  | .note => "note"
  | .geopoint => "geopoint"
  | .geotrace => "geotrace"
  | .geoshape => "geoshape"
  | .date => "date"
  | .time => "time"
  | .dateTime => "dateTime"
  | .image => "image"
  | .audio => "audio"
  | .backgroundAudio => "background-audio"
  | .video => "video"
  | .file => "file"
  | .barcode => "barcode"
  | .calculate => "calculate"
  | .acknowledge => "acknowledge"
  | .hidden => "hidden"
  | .xmlExternal => "xml-external"
  | .beginGroup => "begin_group"
  | .endGroup => "end_group"
  | .beginRepeat => "begin_repeat"
  | .endRepeat => "end_repeat"

/-- The other documented spellings. -/
def synonyms : QuestionType → List String
  | .deviceId => ["imei"]
  | .phoneNumber => ["phone_number"]
  | .selectOne => ["select one"]
  | .selectMultiple => ["select multiple"]
  | .geopoint => ["location"]
  | .dateTime => ["datetime"]
  | .image => ["photo"]
  | .acknowledge => ["trigger"]
  | .beginGroup => ["begin group"]
  | .endGroup => ["end group"]
  | _ => []

/-- Spellings that are understood, though not documented. -/
def otherSpellings : QuestionType → List String
  | .integer => ["int"]
  | .beginRepeat => ["begin repeat"]
  | .endRepeat => ["end repeat"]
  | _ => []

/-- Every spelling with its type. -/
def spellings : List (String × QuestionType) :=
  all.flatMap fun type =>
    (type.key :: type.synonyms ++ type.otherSpellings).map fun spelling => (spelling, type)

/-- The type with exactly this spelling. -/
def ofSpelling? (text : String) : Option QuestionType :=
  (spellings.find? fun entry => entry.1 = text).map Prod.snd

theorem mem_all (type : QuestionType) : type ∈ all := by cases type <;> decide

theorem ofSpelling?_key (type : QuestionType) : ofSpelling? type.key = some type := by
  cases type <;> decide

/-! ## Classes of types -/

/-- The type records something about the filling in of the form. -/
def isMeta : QuestionType → Bool
  | .startTime | .endTime | .today | .deviceId | .phoneNumber | .username | .email
  | .audit | .startGeopoint | .simSerial | .subscriberId => true
  | _ => false

/-- The type is not shown to the respondent. -/
def isHidden (type : QuestionType) : Bool := type.isMeta || type = .calculate

/-- The type opens or closes a group. -/
def isGrouping : QuestionType → Bool
  | .beginGroup | .endGroup | .beginRepeat | .endRepeat => true
  | _ => false

def isRegular (type : QuestionType) : Bool :=
  !type.isMeta && !type.isGrouping && type ≠ .unknown

/-- The answers come from a list of the `choices` worksheet. -/
def requiresAnswers : QuestionType → Bool
  | .selectOne | .selectMultiple | .rank => true
  | _ => false

/-! ## Spelling at the start of a text -/

/-- What follows a spelling at the start of a text, if it ends there or a space comes next. -/
def behind? (spelling : String) (cs : List Char) : Option (List Char) :=
  match Text.dropPrefix? spelling.toList cs with
  | some [] => some []
  | some (' ' :: rest) => some rest
  | _ => none

/-- Of the spellings at the start of a text, the longest, with what follows it. -/
def longestOf : List (String × QuestionType) → List Char →
    Option (String × QuestionType × List Char)
  | [], _ => none
  | (spelling, type) :: entries, cs =>
    match behind? spelling cs, longestOf entries cs with
    | none, best => best
    | some rest, none => some (spelling, type, rest)
    | some rest, some best =>
      if spelling.length < best.1.length then some best else some (spelling, type, rest)

/-- The type that the text starts with, and what follows it. -/
def leading? (cs : List Char) : Option (QuestionType × List Char) :=
  (longestOf spellings cs).map Prod.snd

end QuestionType

end Questionnaire
