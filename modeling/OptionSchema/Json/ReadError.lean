import OptionSchema.Json.Escape
import OptionSchema.Json.Number
import OptionSchema.Json.Scan
import OptionSchema.Text.Quoted

/-!
# Read errors

Why a tree, although it is well formed, cannot be read as what it should be: a string or a number in
it has no value, it has too many levels, or it is of the wrong kind.
-/

namespace OptionSchema.Json

/-- The kind of a value that was found in the place of another one, with the value itself where it
is small. -/
inductive Found where
  | null
  | bool (value : Bool)
  | number (value : Number)
  | string (value : String)
  | sequence
  | map

inductive Expected where
  | bool
  | string
  | sequence
  | embeddedText
  deriving DecidableEq

inductive ReadError where
  | surrogatePairEnds
  | loneSurrogate
  | numberOutOfRange
  | recursionLimit
  | invalidType (found : Found) (expected : Expected)
  | duplicateField (name : String)
  | malformed (cause : ScanError)

def Number.report (number : Number) : String :=
  let text := String.ofList number.numeral.text
  match number with
  | .integer _ _ => s!"integer `{text}`"
  | .float _ => s!"floating point `{text}`"

def Found.report : Found → String
  | .null => "null"
  | .bool true => "boolean `true`"
  | .bool false => "boolean `false`"
  | .number value => value.report
  | .string value => s!"string {Text.quotedText value}"
  | .sequence => "sequence"
  | .map => "map"

def Expected.report : Expected → String
  | .bool => "a boolean"
  | .string => "a string"
  | .sequence => "a sequence"
  | .embeddedText => "raw value"

def ReadError.message : ReadError → String
  | .surrogatePairEnds => "unexpected end of hex escape"
  | .loneSurrogate => "lone leading surrogate in hex escape"
  | .numberOutOfRange => "number out of range"
  | .recursionLimit => "recursion limit exceeded"
  | .invalidType found expected => s!"invalid type: {found.report}, expected {expected.report}"
  | .duplicateField name => s!"duplicate field `{name}`"
  | .malformed cause => cause.message

/-! ## Strings and numbers -/

def readString (body : List Char) : Except ReadError String :=
  match unescape body with
  | .ok text => .ok (String.ofList text)
  | .error .pairEnds => .error .surrogatePairEnds
  | .error .loneSurrogate => .error .loneSurrogate

def readNumber (numeral : Numeral) : Except ReadError Number :=
  match numeral.number? with
  | some number => .ok number
  | none => .error .numberOutOfRange

end OptionSchema.Json
