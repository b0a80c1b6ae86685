import OptionSchema.Config.Load
import OptionSchema.SystemError

/-!
# Configuration files
-/

namespace OptionSchema.Config

inductive ConfigError where
  | fileRead (cause : SystemError)
  | parse
  deriving DecidableEq

def ConfigError.message? : ConfigError → Option String
  | .fileRead cause => some s!"Failed to read config file: {cause.message}"
  | .parse => none

def ofText (text : String) : Except ConfigError Configuration :=
  match (Toml.document? text).bind ofTable? with
  | some config => .ok config
  | none => .error .parse

/-- The configuration in a file with the given contents; there is none if the file is missing. -/
def fromFile (contents? : Option ByteArray) : Except ConfigError Configuration :=
  match contents? with
  | none => .error (.fileRead .noSuchFile)
  | some bytes =>
      match String.fromUTF8? bytes with
      | some text => ofText text
      | none => .error (.fileRead .notUtf8)

/-- The configuration in a file, or the default one if the file is missing. -/
def loadOrDefault (contents? : Option ByteArray) : Except ConfigError Configuration :=
  match contents? with
  | none => .ok .standard
  | some bytes => fromFile (some bytes)

end OptionSchema.Config
