import OptionSchema.Dictionary
import OptionSchema.Evaluation.Process
import OptionSchema.FilePath
import OptionSchema.Text.Piece
import OptionSchema.Text.Quoted

/-!
# Evaluation requests

A request names the module to evaluate and what else the evaluator is told. An evaluator program
gets it as arguments: expressions as they are, texts as double-quoted strings of the expression
language, a file by its absolute path. The path of a file is bytes; an argument has to be a text.
-/

namespace OptionSchema.Evaluation

/-! ## Errors

An evaluation fails because of the request, because of the syntax of one of its expressions, because
of the evaluator, or because it is ended from outside. -/

inductive EvaluationError where
  | diagnostic (message : String)
  | spawn (program : String) (cause : SystemError)
  | badSyntax (part message : String)
  | timedOut (timeout : Nat)
  | cancelled
  | io (cause : SystemError)
  | invalidRequest (reason : String)
  deriving DecidableEq

def EvaluationError.message : EvaluationError → String
  | .diagnostic message => s!"evaluation failed: {message}"
  | .spawn program cause => s!"failed to start evaluator `{program}`: {cause.message}"
  | .badSyntax part message => s!"parse {part}: nix expression error: {message}"
  | .timedOut timeout => s!"evaluation timed out after {describeMilliseconds timeout}"
  | .cancelled => "evaluation cancelled"
  | .io cause => cause.message
  | .invalidRequest reason => s!"invalid evaluation request: {reason}"

/-! ## Requests -/

inductive Locator where
  | path (path : ByteArray)
  | expression (text : String)

structure Request where
  locator : Locator
  pkgs? : Option String
  specialArgs : NameMap String
  optionsPath : List String

/-- A text as a double-quoted string. Backslashes are escaped first, then quotes, then the start of
an interpolation. -/
def quotedString (text : List Char) : List Char :=
  let backslashes := Text.replaceAll ['\\'] ['\\', '\\'] text
  let quotes := Text.replaceAll ['"'] ['\\', '"'] backslashes
  '"' :: Text.replaceAll ['$', '{'] ['\\', '$', '{'] quotes ++ ['"']

/-- A string as a double-quoted string of the expression language. -/
def quote (text : String) : String :=
  String.ofList (quotedString text.toList)

def binding (name expression : String) : String :=
  s!"{quote name} = {expression}; "

def Request.specialArgsSet? (request : Request) : Option String :=
  if request.specialArgs.entries.isEmpty then none
  else
    let bindings :=
      String.join (request.specialArgs.entries.map fun (name, text) => binding name text)
    some s!"\x7b {bindings}\x7d"

/-- The directory that relative paths start from, unless the system refuses to name it. -/
abbrev WorkingDirectory :=
  Except SystemError ByteArray

def absolutePath (directory : WorkingDirectory) (path : ByteArray) :
    Except EvaluationError ByteArray :=
  if FilePath.startsAtRoot path then .ok path
  else (directory.mapError .io).map (FilePath.joinBytes · path)

/-- The text of the module argument: the expression, or the absolute path of the file. -/
def Locator.text (directory : WorkingDirectory) : Locator → Except EvaluationError String
  | .path file => do
      let place ← absolutePath directory file
      match String.fromUTF8? place with
      | some text => return text
      | none =>
          throw (.invalidRequest s!"module path {Text.quotedBytes place} is not valid UTF-8")
  | .expression text => .ok text

def argument (name value : String) : List String :=
  ["--arg", name, value]

def optionalArgument (name : String) (value? : Option String) : List String :=
  match value? with
  | none => []
  | some value => argument name value

def Request.optionsPathList? (request : Request) : Option String :=
  if request.optionsPath.isEmpty then none
  else
    let names := " ".intercalate (request.optionsPath.map quote)
    some s!"[ {names} ]"

def Request.arguments (directory : WorkingDirectory) (request : Request) :
    Except EvaluationError (List String) := do
  let module ← request.locator.text directory
  return argument "module" module ++ optionalArgument "pkgs" request.pkgs? ++
    optionalArgument "specialArgs" request.specialArgsSet? ++
    optionalArgument "optionsPath" request.optionsPathList?

end OptionSchema.Evaluation
