import OptionSchema.Dictionary
import OptionSchema.Schema.Path

/-!
# Configurations

A configuration says which module to evaluate, how to evaluate it, how to name things, what to
generate and what to log. Every setting has a default value.
-/

namespace OptionSchema.Config

/-- The module to evaluate. The locator is the path of a file, or an expression if `expr` holds. -/
structure ModuleSettings where
  locator : String
  expr : Bool
  pkgs? : Option String
  optionsPath? : Option String
  specialArgs : NameMap String
  deriving DecidableEq

structure EvaluatorSettings where
  program : String
  args : List String
  dumper? : Option String
  checkSyntax : Bool
  timeoutSecs? : Option UInt64
  deriving DecidableEq

structure NamingSettings where
  initialisms : NameSet
  overrides : NameMap String
  deriving DecidableEq

/-- What a run produces: type declarations, or the module in its wire form. -/
inductive OutputFormat where
  | rust
  | json
  deriving DecidableEq

structure CodegenSettings where
  rootType : String
  package : String
  format : OutputFormat
  jsonPretty : Bool
  select? : Option String
  outputDir? : Option String
  rustfmt : Bool
  deriving DecidableEq

structure LoggingSettings where
  level : String
  file? : Option String
  deriving DecidableEq

structure Configuration where
  module : ModuleSettings
  evaluator : EvaluatorSettings
  naming : NamingSettings
  codegen : CodegenSettings
  logging : LoggingSettings
  deriving DecidableEq

def ModuleSettings.standard : ModuleSettings :=
  ⟨"", false, none, none, .empty⟩

def EvaluatorSettings.standard : EvaluatorSettings :=
  ⟨"nix-instantiate", ["--eval", "--strict", "--json"], none, false, none⟩

def NamingSettings.standard : NamingSettings :=
  ⟨.empty, .empty⟩

def CodegenSettings.standard : CodegenSettings :=
  ⟨"Config", "config", .rust, true, none, none, false⟩

def LoggingSettings.standard : LoggingSettings :=
  ⟨"info", none⟩

def Configuration.standard : Configuration :=
  ⟨.standard, .standard, .standard, .standard, .standard⟩

def OutputFormat.name : OutputFormat → String
  | .rust => "rust"
  | .json => "json"

def OutputFormat.ofName? (name : String) : Option OutputFormat :=
  [OutputFormat.rust, .json].find? (·.name == name)

def OutputFormat.extension : OutputFormat → String
  | .rust => "rs"
  | .json => "json"

/-- The path that an optional dotted text denotes. -/
def splitDotted (text? : Option String) : List String :=
  match text? with
  | none => []
  | some text =>
      if text.isEmpty then [] else (Text.cut (· == '.') text.toList).map String.ofList

def Configuration.optionsPath (config : Configuration) : List String :=
  splitDotted config.module.optionsPath?

def Configuration.selectPath (config : Configuration) : List String :=
  splitDotted config.codegen.select?

end OptionSchema.Config
