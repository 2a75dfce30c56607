/-!
# File errors

Why an operation on files fails, in the words of the operating system.
-/

namespace RefDocs

/-- Why an operation on files fails. -/
inductive FileError where
  /-- Nothing is there, or the way to it is missing. -/
  | notFound
  /-- Something is there already. -/
  | alreadyExists
  /-- A file stands where a directory has to be. -/
  | notDirectory
  /-- A directory stands where a file has to be. -/
  | isDirectory
  /-- The path cannot be used so. -/
  | invalidArgument
  /-- A name or the path as a whole has too many bytes. -/
  | nameTooLong
  /-- The directory still has entries. -/
  | notEmpty
  /-- The path holds a null character. -/
  | nullCharacter
  /-- Any other failure, with its text. -/
  | other (text : String)
  deriving DecidableEq, Repr

/-- The text of a file error. -/
def FileError.message : FileError → String
  | .notFound => "No such file or directory (os error 2)"
  | .alreadyExists => "File exists (os error 17)"
  | .notDirectory => "Not a directory (os error 20)"
  | .isDirectory => "Is a directory (os error 21)"
  | .invalidArgument => "Invalid argument (os error 22)"
  | .nameTooLong => "File name too long (os error 36)"
  | .notEmpty => "Directory not empty (os error 39)"
  | .nullCharacter => "file name contained an unexpected NUL byte"
  | .other text => text

end RefDocs
