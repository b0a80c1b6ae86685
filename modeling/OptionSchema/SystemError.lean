import OptionSchema.Text.Digit

/-!
# System errors

The causes for which the system refuses to open or use a file or to start a program, and their
texts. Those that the programs and files of this library meet have names; every other one is given by
its number, if it has one, and its text.
-/

namespace OptionSchema

inductive SystemError where
  | noSuchFile
  | badDescriptor
  | permissionDenied
  | notADirectory
  | isADirectory
  | nameTooLong
  | nulInPath
  | nulInArgument
  | notUtf8
  | other (number? : Option Nat) (description : String)
  deriving DecidableEq

namespace SystemError

def description : SystemError → String
  | .noSuchFile => "No such file or directory"
  | .badDescriptor => "Bad file descriptor"
  | .permissionDenied => "Permission denied"
  | .notADirectory => "Not a directory"
  | .isADirectory => "Is a directory"
  | .nameTooLong => "File name too long"
  | .nulInPath => "file name contained an unexpected NUL byte"
  | .nulInArgument => "nul byte found in provided data"
  | .notUtf8 => "stream did not contain valid UTF-8"
  | .other _ description => description

/-- The number of a system error. The errors that are found before the system is asked have none. -/
def number? : SystemError → Option Nat
  | .noSuchFile => some 2
  | .badDescriptor => some 9
  | .permissionDenied => some 13
  | .notADirectory => some 20
  | .isADirectory => some 21
  | .nameTooLong => some 36
  | .nulInPath => none
  | .nulInArgument => none
  | .notUtf8 => none
  | .other number? _ => number?

def message (cause : SystemError) : String :=
  match cause.number? with
  | some number => s!"{cause.description} (os error {Text.decimal number})"
  | none => cause.description

end SystemError

end OptionSchema
