/-!
Why files cannot be read, in the words of the system.
-/

namespace HeapInspector

/-- Why a file cannot be read. -/
inductive FileFault where
  | missing
  /-- A file stands where a path needs a directory. -/
  | notDirectory
  | isDirectory
  | nameTooLong
  /-- No name of a file has the character zero in it. -/
  | zeroInName
  | notText
  /-- Any other reason, in the words of the system. -/
  | other (reason : String)
  deriving DecidableEq, Repr

def FileFault.message : FileFault → String
  | missing => "No such file or directory (os error 2)"
  | notDirectory => "Not a directory (os error 20)"
  | isDirectory => "Is a directory (os error 21)"
  | nameTooLong => "File name too long (os error 36)"
  | zeroInName => "file name contained an unexpected NUL byte"
  | notText => "stream did not contain valid UTF-8"
  | other reason => reason

end HeapInspector
