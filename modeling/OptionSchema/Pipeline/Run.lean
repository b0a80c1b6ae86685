import OptionSchema.Codegen.Dependencies
import OptionSchema.Codegen.Generate
import OptionSchema.Config.Basic
import OptionSchema.Evaluation.Command
import OptionSchema.Text.Piece
import OptionSchema.Wire.Decode
import OptionSchema.Wire.Encode

/-!
# Runs

A run evaluates the configured module, decodes what comes of it, selects a part of it and generates
code from that part or encodes it again.
-/

namespace OptionSchema.Pipeline

/-! ## Output

A run produces a source file or a document in the wire form. What is written of a source file has no
blanks at the ends of its lines and no blank lines at its end; a document gets a line feed at its
end if it has none. -/

inductive Output where
  | source (package text : String) (dependencies : Codegen.Dependencies)
  | document (package : String) (bytes : ByteArray)

def Output.package : Output → String
  | .source package _ _ => package
  | .document package _ => package

def Output.extension : Output → String
  | .source _ _ _ => "rs"
  | .document _ _ => "json"

def Output.fileName (output : Output) : String :=
  s!"{output.package}.{output.extension}"

/-- A source text without blanks at the ends of its lines and without blank lines at its end. -/
def cleanSource (source : String) : String :=
  let lines := (Text.lines source.toList).map Text.trimEnd
  let kept := (lines.reverse.dropWhile List.isEmpty).reverse
  String.ofList (kept.flatMap (· ++ ['\n']))

def endedDocument (bytes : ByteArray) : ByteArray :=
  if bytes.data.back? == some 10 then bytes else bytes.push 10

def Output.contents : Output → ByteArray
  | .source _ text _ => (cleanSource text).toUTF8
  | .document _ bytes => endedDocument bytes

/-! ## Runs -/

open Evaluation (EvaluationError Request CommandProvider)

inductive RunError where
  | selectNotFound (path : List String)
  | selectNotModule (path : List String)
  | evaluation (cause : EvaluationError)
  | decode (cause : Wire.DecodeError)
  | codegen (cause : Codegen.CodegenError)

def RunError.message : RunError → String
  | .selectNotFound path => s!"selected path `{Path.dotted path}` not found in module"
  | .selectNotModule path => s!"selected path `{Path.dotted path}` is an option, not a module"
  | .evaluation cause => cause.message
  | .decode cause => cause.message
  | .codegen cause => cause.message

def evaluationRequest (config : Config.Configuration) : Request :=
  let settings := config.module
  { locator := if settings.expr then .expression settings.locator else .path settings.locator.toUTF8
    pkgs? := settings.pkgs?
    specialArgs := settings.specialArgs
    optionsPath := config.optionsPath }

/-- The evaluator that the settings describe. Without a dump expression there would be nothing to
evaluate. -/
def commandProvider (settings : Config.EvaluatorSettings) :
    Except EvaluationError CommandProvider :=
  match settings.dumper? with
  | none =>
      .error (.invalidRequest "no dump expression configured; set `evaluator.dumper`")
  | some dumper =>
      .ok
        { program := settings.program
          args := settings.args
          trailing := [dumper]
          checker? := if settings.checkSyntax then some ⟨settings.program, []⟩ else none
          timeout? := settings.timeoutSecs?.map fun seconds => seconds.toNat * 1000 }

def namingRules (settings : Config.NamingSettings) : Naming.Rules :=
  { Naming.Rules.ofInitialisms settings.initialisms.names with
    overrides := settings.overrides.entries }

def select (path : List String) (module : Module) : Except RunError Module :=
  if path.isEmpty then .ok module
  else
    match module.byPath? path with
    | none => .error (.selectNotFound path)
    | some node =>
        match node.contents? with
        | none => .error (.selectNotModule path)
        | some contents => .ok contents

def sourceOutput (file : Codegen.SourceFile) : Output :=
  .source file.package file.source file.dependencies

def produce (config : Config.Configuration) (module : Module) : Except RunError Output :=
  let settings := config.codegen
  match settings.format with
  | .rust =>
      let options : Codegen.GenerateOptions := ⟨settings.rootType, settings.package⟩
      ((Codegen.generate options (namingRules config.naming) module).mapError .codegen).map
        sourceOutput
  | .json =>
      let text := if settings.jsonPretty then Wire.encodePretty module else Wire.encode module
      .ok (.document settings.package text.toUTF8)

def process (config : Config.Configuration) (bytes : ByteArray) : Except RunError Output := do
  let module ← (Wire.decode bytes).mapError .decode
  let selected ← select config.selectPath module
  produce config selected

def run (config : Config.Configuration)
    (evaluate : Request → Except EvaluationError ByteArray) : Except RunError Output := do
  let bytes ← (evaluate (evaluationRequest config)).mapError .evaluation
  process config bytes

end OptionSchema.Pipeline
