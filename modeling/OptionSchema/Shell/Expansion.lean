import OptionSchema.Shell.Arithmetic
import OptionSchema.Shell.Field
import OptionSchema.Shell.Isolation
import OptionSchema.Shell.Pattern

/-!
# Expansion of words

A parameter is replaced by its value, a command by its output, an expression by its result. What is
not quoted is then cut into fields, or becomes a pattern.
-/

namespace OptionSchema.Shell

def integerText (value : Int) : String :=
  if value < 0 then "-" ++ Text.decimal value.natAbs else Text.decimal value.natAbs

def Parameter.name : Parameter → String
  | .named text => text
  | .argument position => Text.decimal position
  | .each => "@"
  | .joined => "*"
  | .count => "#"
  | .status => "?"
  | .process => "$"
  | .job => "!"

def Process.joinedArgs? (process : Process) : Option String :=
  let between := String.ofList (process.separators.take 1)
  if process.args.isEmpty then none else some (between.intercalate process.args)

def Process.parameter? (process : Process) : Parameter → Option String
  | .named text => process.value? text
  | .argument 0 => some process.name
  | .argument (position + 1) => process.args[position]?
  | .each => process.joinedArgs?
  | .joined => process.joinedArgs?
  | .count => some (Text.decimal process.args.length)
  | .status => some (Text.decimal process.status)
  | .process => some (Text.decimal process.first)
  | .job => process.jobs.head?.map fun job => Text.decimal job.1

def Process.parameterAtoms (process : Process) (quoted : Bool) (parameter : Parameter) :
    List Atom :=
  if parameter == .each || (parameter == .joined && !quoted) then
    List.intercalate [.gap] (process.args.map fun arg => valueAtoms quoted arg.toList)
  else valueAtoms quoted ((process.parameter? parameter).getD "").toList

def checkSet (parameter : Parameter) : Run Unit := do
  let process ← getProcess
  let isArguments := parameter == .each || parameter == .joined
  if process.has 'u' && !isArguments && (process.parameter? parameter).isNone then
    failWith s!"{parameter.name}: parameter not set"

def evaluate (expression : String) : Run Int := do
  let process ← getProcess
  match Arithmetic.evaluate (fun name => (process.value? name).getD "") expression.toList with
  | .error cause => failWith (cause.message expression)
  | .ok value => return value

def joinAtoms (atoms : List Atom) : Run String := do
  return String.ofList ((atomsText (← getProcess).separators atoms).map Prod.fst)

def atomsPattern (atoms : List Atom) : Run (List PatternItem) := do
  return patternFrom 0 (atomsText (← getProcess).separators atoms)

mutual

/-- The atoms of a part of a word. Characters that stand inside braces separate fields. -/
def expandPart (run : Runner) (inner : Bool) : Part → Run (List Atom)
  | .char quoted c => return [.char c quoted (inner && !quoted)]
  | .nothing => return [.mark]
  | .parameter quoted parameter form => expandForm run quoted parameter form
  | .substitution quoted body => return valueAtoms quoted (← capture run body)
  | .arithmetic quoted expression => do
      let value ← evaluate (← joinAtoms (← expandParts run true expression))
      return valueAtoms quoted (integerText value).toList
  | .malformed => failWith "Bad substitution"

def expandParts (run : Runner) (inner : Bool) : List Part → Run (List Atom)
  | [] => return []
  | part :: rest => return (← expandPart run inner part) ++ (← expandParts run inner rest)

def expandForm (run : Runner) (quoted : Bool) (parameter : Parameter) : Form → Run (List Atom)
  | .value => do
      checkSet parameter
      return (← getProcess).parameterAtoms quoted parameter
  | .length => do
      checkSet parameter
      let value := ((← getProcess).parameter? parameter).getD ""
      return valueAtoms quoted (Text.decimalDigits value.length)
  | .fallback kind coversEmpty word => do
      let process ← getProcess
      let isSet := (process.parameter? parameter).any fun value => !coversEmpty || value != ""
      let quotes : List Atom := if quoted then [.mark] else []
      match kind, isSet with
      | .replace, true => return quotes ++ (← expandParts run true word)
      | .replace, false => return quotes
      | _, true => return process.parameterAtoms quoted parameter
      | .use, false => return quotes ++ (← expandParts run true word)
      | .assign, false =>
          let text ← joinAtoms (← expandParts run true word)
          match parameter with
          | .named name =>
              assign name text
              return valueAtoms quoted text.toList
          | _ => failWith "Bad substitution"
      | .complain, false =>
          let message ← joinAtoms (← expandParts run true word)
          let missing := if coversEmpty then "parameter not set or null" else "parameter not set"
          failWith s!"{parameter.name}: {if word.isEmpty then missing else message}"
  | .trimmed front longest word => do
      checkSet parameter
      let pattern ← atomsPattern (← expandParts run false word)
      let value := ((← getProcess).parameter? parameter).getD ""
      return valueAtoms quoted (trimmed pattern front longest value.toList)

end

def expandFields (run : Runner) : List Word → Run (List String)
  | [] => return []
  | word :: rest => do
      let atoms ← expandParts run false word
      let fields := cutFields (← getProcess).separators atoms
      return fields ++ (← expandFields run rest)

def expandText (run : Runner) (word : Word) : Run String := do
  joinAtoms (← expandParts run false word)

def expandPattern (run : Runner) (word : Word) : Run (List PatternItem) := do
  atomsPattern (← expandParts run false word)

end OptionSchema.Shell
