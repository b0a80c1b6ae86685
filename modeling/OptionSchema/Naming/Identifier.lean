import OptionSchema.Naming.Exported

/-!
# Identifiers

From an exported name come the identifier of a field, in snake case, and that of a type. A field
identifier that is a keyword is written raw or, if that is not allowed, with an underscore behind
it. A type identifier steps aside from the names that generated code refers to.
-/

namespace OptionSchema.Naming

def rawKeywords : List String :=
  ["abstract", "as", "async", "await", "become", "box", "break", "const", "continue", "do", "dyn",
    "else", "enum", "extern", "false", "final", "fn", "for", "gen", "if", "impl", "in", "let",
    "loop", "macro", "match", "mod", "move", "mut", "override", "priv", "pub", "ref", "return",
    "static", "struct", "trait", "true", "try", "type", "typeof", "unsafe", "unsized", "use",
    "virtual", "where", "while", "yield"]

def strictKeywords : List String :=
  ["self", "super", "crate", "Self"]

/-- The type names that generated code refers to. -/
def reservedTypes : List String :=
  ["Self", "Option", "Vec", "String", "Box", "BTreeMap", "Cow", "Result", "Serialize",
    "Deserialize"]

/-- Whether an underscore goes between two characters of a field identifier, given the character
after them: before a capital letter that follows a small letter or a digit, and before the last
capital letter of a row that a small letter follows. -/
def startsWord (previous current : Char) (next : Option Char) : Bool :=
  Text.isCapital current &&
    (Text.isSmall previous || previous.isDigit ||
      (Text.isCapital previous && next.any Text.isSmall))

/-- The snake case of the characters that follow `previous`. -/
def snakeCaseAfter (previous : Char) : List Char → List Char
  | [] => []
  | c :: rest =>
      (if startsWord previous c rest.head? then ['_'] else []) ++ Text.smallForm c ++
        snakeCaseAfter c rest

def snakeCase : List Char → List Char
  | [] => []
  | c :: rest => Text.smallForm c ++ snakeCaseAfter c rest

def escapeKeyword (identifier : String) : String :=
  if identifier ∈ strictKeywords then identifier ++ "_"
  else if identifier ∈ rawKeywords then "r#" ++ identifier
  else identifier

def fieldIdentifier (target : String) : String :=
  escapeKeyword (String.ofList (snakeCase target.toList))

def typeIdentifier (target : String) : String :=
  if target ∈ reservedTypes then target ++ "_" else target

/-- How many leading characters lose their capitals: those of the leading row of capital letters,
but not its last one if that starts the next word, and at least one character. -/
def acronymLength (identifier : List Char) : Nat :=
  let run := (identifier.takeWhile Text.isCapital).length
  if 1 < run ∧ (identifier[run]?.any Text.isSmall) = true then run - 1 else max run 1

/-- An identifier with its leading letter or acronym in small letters. -/
def unexport (identifier : String) : String :=
  let chars := identifier.toList
  let length := acronymLength chars
  String.ofList ((chars.take length).flatMap Text.smallForm ++ chars.drop length)

end OptionSchema.Naming
