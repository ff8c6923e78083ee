/-!
# Storage

What a conversion asks of its surroundings: files that are read as bytes and written as text, and a
place where text is shown.
-/

namespace Questionnaire

/-- The files that a program can reach, and its output. -/
class Storage (m : Type → Type) where
  /-- The content of a file, if it can be read. -/
  read : String → m (Option ByteArray)
  /-- Puts a text into a file, new or not. The answer tells whether it could be written. -/
  write : String → String → m Bool
  /-- Shows a text. -/
  print : String → m Unit

/-- A computation that may fail has the storage of what it runs on. -/
instance {m : Type → Type} [Monad m] [Storage m] (ε : Type) : Storage (ExceptT ε m) where
  read path := ExceptT.lift (Storage.read path)
  write path text := ExceptT.lift (Storage.write path text)
  print text := ExceptT.lift (Storage.print text)

end Questionnaire
