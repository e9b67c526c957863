/-! Why a disk refuses an operation. -/

namespace Scaffold

inductive Refusal where
  | notFound
  | busy
  | exists
  | notADirectory
  | isADirectory
  | invalid
  | nameTooLong
  | notEmpty
  /-- a path with a character that ends it for the system -/
  | zeroInPath
  | notText
  deriving DecidableEq, Repr

namespace Refusal

/-- The words of the system for a refusal, with its number. -/
def text : Refusal → String
  | notFound => "No such file or directory (os error 2)"
  | busy => "Device or resource busy (os error 16)"
  | .exists => "File exists (os error 17)"
  | notADirectory => "Not a directory (os error 20)"
  | isADirectory => "Is a directory (os error 21)"
  | invalid => "Invalid argument (os error 22)"
  | nameTooLong => "File name too long (os error 36)"
  | notEmpty => "Directory not empty (os error 39)"
  | zeroInPath => "file name contained an unexpected NUL byte"
  | notText => "stream did not contain valid UTF-8"

end Refusal

end Scaffold
