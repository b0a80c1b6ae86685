import OptionSchema.Config.Basic
import OptionSchema.SystemError
import OptionSchema.Text.Digit
import OptionSchema.Text.Piece

/-!
# Logging

A level is given by its name, in any ASCII case, or by its number, the most severe first. Blanks
around it do not matter.
-/

namespace OptionSchema.Logging

inductive Level where
  | error
  | warn
  | info
  | debug
  | trace
  deriving DecidableEq

/-- The levels, the most severe first. -/
def Level.all : List Level :=
  [.error, .warn, .info, .debug, .trace]

def Level.name : Level → String
  | .error => "ERROR"
  | .warn => "WARN"
  | .info => "INFO"
  | .debug => "DEBUG"
  | .trace => "TRACE"

inductive LoggingError where
  | invalidLevel (text : String)
  | file (cause : SystemError)
  deriving DecidableEq

def LoggingError.message : LoggingError → String
  | .invalidLevel text => s!"invalid log level `{text}`"
  | .file cause => s!"failed to open log file: {cause.message}"

/-- A natural number in decimal digits, with or without a plus sign. -/
def natural? (text : List Char) : Option Nat :=
  let digits :=
    match text with
    | '+' :: rest => rest
    | rest => rest
  if !digits.isEmpty && digits.all Char.isDigit then
    some (Text.digitsValue 10 digits)
  else none

def parseLevel (text : String) : Except LoggingError Level :=
  let trimmed := Text.trim text.toList
  let numbered :=
    match natural? trimmed with
    | some (number + 1) => Level.all[number]?
    | _ => none
  let named := Level.all.find? fun level => level.name.toList == trimmed.map Char.toUpper
  match numbered <|> named with
  | some level => .ok level
  | none => .error (.invalidLevel text)

/-- Sets up logging. `logFile` says what comes of opening the log file, which is only tried if there
is one and the level is known. -/
def start (settings : Config.LoggingSettings) (logFile : String → Except SystemError Unit) :
    Except LoggingError Level := do
  let level ← parseLevel settings.level
  match settings.file? with
  | none => return level
  | some path =>
      (logFile path).mapError .file
      return level

end OptionSchema.Logging
