import OptionSchema.Config.Basic
import OptionSchema.Toml.Document

/-!
# Loading configurations

A document is laid over the default configuration: a section or setting that it has counts, one that
it does not have keeps its default, and what it has beyond those is ignored, but has to be readable.
A section can also be an array, which gives its settings by position; what is behind the last one is
not looked at. A date counts as a table with one entry.
-/

namespace OptionSchema.Config

/-- The settings of a section, found by name or by position. -/
inductive Source where
  | named (entries : List (String × Toml.Value))
  | positional (items : List Toml.Value)

def Source.find? (source : Source) (position : Nat) (name : String) : Option Toml.Value :=
  match source with
  | .named entries => Dictionary.get? name entries
  | .positional items => items[position]?

/-- The key of the entry that a date counts as. -/
def datetimeKey : String :=
  "$__toml_private_datetime"

/-- The entries of a value that counts as a table. -/
def entries? : Toml.Value → Option (List (String × Toml.Value))
  | .table entries => some entries
  | .datetime datetime => some [(datetimeKey, .string datetime.text)]
  | _ => none

def Source.ofValue? : Toml.Value → Option Source
  | .array items => some (.positional items)
  | value =>
      if value.isReadable then (entries? value).map .named else none

/-- Reads a setting, or takes the given one if the source does not have it. -/
def Source.setting {α : Type} (source : Source) (position : Nat) (name : String)
    (read : Toml.Value → Option α) (standard : α) : Option α :=
  match source.find? position name with
  | none => some standard
  | some value => read value

def readText : Toml.Value → Option String
  | .string text => some text
  | _ => none

def readBool : Toml.Value → Option Bool
  | .boolean value => some value
  | _ => none

def readWord : Toml.Value → Option UInt64
  | .integer value =>
      if 0 ≤ value ∧ value < 0x1_0000_0000_0000_0000 then some (UInt64.ofNat value.toNat) else none
  | _ => none

def readTexts : Toml.Value → Option (List String)
  | .array items => items.mapM readText
  | _ => none

def readNames (value : Toml.Value) : Option NameSet :=
  (readTexts value).map NameSet.ofList

def readDictionary (value : Toml.Value) : Option (NameMap String) := do
  let entries ← entries? value
  let texts ← entries.mapM fun (key, value) => (readText value).map (key, ·)
  return .ofPairs texts

/-- Reads an output format: its name, or a table that holds nothing but an empty table or array of
that name. -/
def readFormat : Toml.Value → Option OutputFormat
  | .string name => OutputFormat.ofName? name
  | .table [(name, .table [])] => OutputFormat.ofName? name
  | .table [(name, .array [])] => OutputFormat.ofName? name
  | _ => none

def optional {α : Type} (read : Toml.Value → Option α) (value : Toml.Value) : Option (Option α) :=
  (read value).map some

def readModule (source : Source) : Option ModuleSettings := do
  let standard := ModuleSettings.standard
  return {
    locator := ← source.setting 0 "locator" readText standard.locator
    expr := ← source.setting 1 "expr" readBool standard.expr
    pkgs? := ← source.setting 2 "pkgs" (optional readText) standard.pkgs?
    optionsPath? := ← source.setting 3 "options_path" (optional readText) standard.optionsPath?
    specialArgs := ← source.setting 4 "special_args" readDictionary standard.specialArgs }

def readEvaluator (source : Source) : Option EvaluatorSettings := do
  let standard := EvaluatorSettings.standard
  return {
    program := ← source.setting 0 "program" readText standard.program
    args := ← source.setting 1 "args" readTexts standard.args
    dumper? := ← source.setting 2 "dumper" (optional readText) standard.dumper?
    checkSyntax := ← source.setting 3 "check_syntax" readBool standard.checkSyntax
    timeoutSecs? := ← source.setting 4 "timeout_secs" (optional readWord) standard.timeoutSecs? }

def readNaming (source : Source) : Option NamingSettings := do
  let standard := NamingSettings.standard
  return {
    initialisms := ← source.setting 0 "initialisms" readNames standard.initialisms
    overrides := ← source.setting 1 "overrides" readDictionary standard.overrides }

def readCodegen (source : Source) : Option CodegenSettings := do
  let standard := CodegenSettings.standard
  return {
    rootType := ← source.setting 0 "root_type" readText standard.rootType
    package := ← source.setting 1 "package" readText standard.package
    format := ← source.setting 2 "format" readFormat standard.format
    jsonPretty := ← source.setting 3 "json_pretty" readBool standard.jsonPretty
    select? := ← source.setting 4 "select" (optional readText) standard.select?
    outputDir? := ← source.setting 5 "output_dir" (optional readText) standard.outputDir?
    rustfmt := ← source.setting 6 "rustfmt" readBool standard.rustfmt }

def readLogging (source : Source) : Option LoggingSettings := do
  let standard := LoggingSettings.standard
  return {
    level := ← source.setting 0 "level" readText standard.level
    file? := ← source.setting 1 "file" (optional readText) standard.file? }

/-- Reads a section, which keeps its default settings if the document does not have it. -/
def readSection {α : Type} (entries : List (String × Toml.Value)) (name : String)
    (read : Source → Option α) (standard : α) : Option α :=
  match Dictionary.get? name entries with
  | none => some standard
  | some value => (Source.ofValue? value).bind read

def ofSections? (entries : List (String × Toml.Value)) : Option Configuration := do
  return {
    module := ← readSection entries "module" readModule .standard
    evaluator := ← readSection entries "evaluator" readEvaluator .standard
    naming := ← readSection entries "naming" readNaming .standard
    codegen := ← readSection entries "codegen" readCodegen .standard
    logging := ← readSection entries "logging" readLogging .standard }

def sectionNames : List String :=
  ["module", "evaluator", "naming", "codegen", "logging"]

def ofTable? (entries : List (String × Toml.Value)) : Option Configuration :=
  if entries.all fun (key, value) => sectionNames.contains key || value.isReadable then
    ofSections? entries
  else none

end OptionSchema.Config
