/-!
The reasons for which a path cannot be followed, a file cannot be read, or output cannot be
written, with the wording and number the operating system gives them.
-/

namespace Preflight

inductive AccessFault where
  | notFound
  | permissionDenied
  | notDirectory
  | isDirectory
  | nameTooLong
  | tooManyLinks
  | noSpace
  /-- The path holds the character NUL, so no file can have it. -/
  | nulInPath
  /-- Any other reason, in the words of whoever reports it. -/
  | other (description : String)
  deriving DecidableEq, Repr

def AccessFault.message : AccessFault → String
  | .notFound => "No such file or directory (os error 2)"
  | .permissionDenied => "Permission denied (os error 13)"
  | .notDirectory => "Not a directory (os error 20)"
  | .isDirectory => "Is a directory (os error 21)"
  | .nameTooLong => "File name too long (os error 36)"
  | .tooManyLinks => "Too many levels of symbolic links (os error 40)"
  | .noSpace => "No space left on device (os error 28)"
  | .nulInPath => "file name contained an unexpected NUL byte"
  | .other description => description

end Preflight
