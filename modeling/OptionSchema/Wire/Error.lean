import OptionSchema.Json.ReadError
import OptionSchema.Schema.Path
import OptionSchema.Schema.Tag

/-!
# Errors of the wire form

An error of decoding beyond the scan says where in the document it arose, by the path of the object
that was being read. Payload fields and the indices of alternatives count as names of that path. Both
directions refuse an option whose kind does not have the tag that the vocabulary has it under.
-/

namespace OptionSchema.Wire

inductive DecodeError where
  | json (cause : Json.ScanError)
  | notAnObject (path : List String)
  | shape (path : List String) (cause : Json.ReadError)
  | missingField (path : List String) (tag : Tag) (field : String)
  | unreachableVariant (tag : String)

inductive EncodeError where
  | unreachableVariant (tag : String)

/-- The wording for a tag that the vocabulary and the kinds do not agree about. -/
def disagreement (tag : String) : String :=
  s!"unreachable option variant `{tag}`: registry and model disagree"

def EncodeError.message : EncodeError → String
  | .unreachableVariant tag => disagreement tag

def DecodeError.message : DecodeError → String
  | .json cause => cause.message
  | .notAnObject path => s!"expected a JSON object at {Path.display path}"
  | .shape path cause => s!"unexpected wire shape at {Path.display path}: {cause.message}"
  | .missingField path tag field =>
      s!"`{tag.name}` option at {Path.display path} is missing its `{field}` field"
  | .unreachableVariant tag => disagreement tag

end OptionSchema.Wire
