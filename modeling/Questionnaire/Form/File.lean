import Questionnaire.Digest.Sha256
import Questionnaire.Storage.Path
import Questionnaire.Text.Casing

/-!
# Form files

A form file is what a path led to. Its name and kind are told from the path.
-/

namespace Questionnaire

structure FormFile where
  path : String
  content : ByteArray

namespace FormFile

/-- The last part of the path; the whole path if that is no name. -/
def name (file : FormFile) : String := (Path.fileName? file.path).getD file.path

/-- The extension of the name in small letters. -/
def extension? (file : FormFile) : Option String := (Path.extension? file.name).map Text.lower

/-- The name without its extension. -/
def stem (file : FormFile) : String := (Path.stem? file.name).getD file.name

/-- The SHA-256 digest of the content in hexadecimal digits. -/
def checksum (file : FormFile) : String := Sha256.hexDigest file.content.data.toList

end FormFile

end Questionnaire
