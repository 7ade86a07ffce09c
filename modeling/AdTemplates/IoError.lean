/-! Causes for which the file system or a sink refuses an operation. -/
namespace AdTemplates

inductive IoError where
  | notFound
  | notADirectory
  | isADirectory
  | nameTooLong
  | noSpace
  | nulInName
  | invalidUtf8
  /-- A refusal that a caller's own sink words itself. -/
  | refused (reason : String)
  deriving DecidableEq, Repr

/-- The wording of a cause, with the number that the system gives it. -/
def IoError.message : IoError → String
  | .notFound => "No such file or directory (os error 2)"
  | .notADirectory => "Not a directory (os error 20)"
  | .isADirectory => "Is a directory (os error 21)"
  | .nameTooLong => "File name too long (os error 36)"
  | .noSpace => "No space left on device (os error 28)"
  | .nulInName => "file name contained an unexpected NUL byte"
  | .invalidUtf8 => "stream did not contain valid UTF-8"
  | .refused reason => reason

end AdTemplates
