/-!
# The vocabulary of option kinds

Every option kind has a tag, and the tags are closed: `Tag.all` lists them, and a name that is none
of theirs names no kind.
-/

namespace OptionSchema

/-- The kinds that say all there is to say by their name. -/
inductive Scalar where
  | str
  | int
  | intBetween
  | positiveInt
  | signedInt8
  | signedInt16
  | signedInt32
  | unsignedInt8
  | unsignedInt16
  | unsignedInt32
  | unsignedInt
  | path
  | package
  | bool
  | float
  | attrs
  | anything
  deriving DecidableEq

/-- The kinds around one inner node. -/
inductive Wrapper where
  | unique
  | nullOr
  | listOf
  | attrsOf
  deriving DecidableEq

inductive Tag where
  | scalar (scalar : Scalar)
  | unspecified
  | enumeration
  | separatedString
  | wrapped (wrapper : Wrapper)
  | either
  | submodule
  deriving DecidableEq

def Scalar.name : Scalar → String
  | .str => "str"
  | .int => "int"
  | .intBetween => "intBetween"
  | .positiveInt => "positiveInt"
  | .signedInt8 => "signedInt8"
  | .signedInt16 => "signedInt16"
  | .signedInt32 => "signedInt32"
  | .unsignedInt8 => "unsignedInt8"
  | .unsignedInt16 => "unsignedInt16"
  | .unsignedInt32 => "unsignedInt32"
  | .unsignedInt => "unsignedInt"
  | .path => "path"
  | .package => "package"
  | .bool => "bool"
  | .float => "float"
  | .attrs => "attrs"
  | .anything => "anything"

def Wrapper.name : Wrapper → String
  | .unique => "unique"
  | .nullOr => "nullOr"
  | .listOf => "listOf"
  | .attrsOf => "attrsOf"

namespace Tag

def name : Tag → String
  | .scalar kind => kind.name
  | .unspecified => "unspecified"
  | .enumeration => "enum"
  | .separatedString => "separatedString"
  | .wrapped around => around.name
  | .either => "either"
  | .submodule => "submodule"

def all : List Tag :=
  [.scalar .str, .scalar .int, .scalar .intBetween, .scalar .positiveInt, .scalar .signedInt8,
    .scalar .signedInt16, .scalar .signedInt32, .scalar .unsignedInt8, .scalar .unsignedInt16,
    .scalar .unsignedInt32, .scalar .unsignedInt, .scalar .path, .scalar .package, .scalar .bool,
    .scalar .float, .scalar .attrs, .scalar .anything, .unspecified, .enumeration,
    .separatedString, .wrapped .unique, .either, .wrapped .nullOr, .wrapped .listOf,
    .wrapped .attrsOf, .submodule]

def ofName? (name : String) : Option Tag :=
  all.find? fun tag => tag.name == name

def isRegistered (name : String) : Bool :=
  (ofName? name).isSome

end Tag

end OptionSchema
