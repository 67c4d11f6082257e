/-
Why a file could not be read, and the wording of it.
-/

namespace Luminaire

/-- Why a file could not be read. -/
inductive FileFault where
  | missing
  | inputOutput
  | noDevice
  | notDirectory
  | isDirectory
  | invalidArgument
  | nameTooLong
  | zeroByte
  | notText
  deriving DecidableEq, Repr

namespace FileFault

def text : FileFault → String
  | .missing => "No such file or directory (os error 2)"
  | .inputOutput => "Input/output error (os error 5)"
  | .noDevice => "No such device or address (os error 6)"
  | .notDirectory => "Not a directory (os error 20)"
  | .isDirectory => "Is a directory (os error 21)"
  | .invalidArgument => "Invalid argument (os error 22)"
  | .nameTooLong => "File name too long (os error 36)"
  | .zeroByte => "file name contained an unexpected NUL byte"
  | .notText => "stream did not contain valid UTF-8"

/-- The fault and the path it belongs to. -/
def textAt (fault : FileFault) (path : String) : String := path ++ ": " ++ fault.text

/-- What was being done to a file as the fault came up, the file's path and
the fault. The wording is fixed only where the path is known. -/
def report? (fault : FileFault) (activity : String) (path : Option String) : Option String :=
  path.map fun path => activity ++ fault.textAt path

end FileFault

end Luminaire
