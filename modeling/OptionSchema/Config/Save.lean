import OptionSchema.Config.Basic
import OptionSchema.Toml.Write

/-!
# Saving configurations

Every section is written with all its settings, except for those that are absent. Tables inside a
section follow its other settings.
-/

namespace OptionSchema.Config

open Toml (writeBool writeEntry writeHeader writeString writeStrings)

def optionalEntry (key : String) (text? : Option String) : String :=
  match text? with
  | none => ""
  | some text => writeEntry key (writeString text)

def dictionaryEntries (entries : List (String × String)) : String :=
  String.join (entries.map fun (key, text) => writeEntry key (writeString text))

def ModuleSettings.write (settings : ModuleSettings) : String :=
  writeHeader ["module"] ++ writeEntry "locator" (writeString settings.locator) ++
    writeEntry "expr" (writeBool settings.expr) ++ optionalEntry "pkgs" settings.pkgs? ++
    optionalEntry "options_path" settings.optionsPath? ++ "\n" ++
    writeHeader ["module", "special_args"] ++ dictionaryEntries settings.specialArgs.entries

def EvaluatorSettings.write (settings : EvaluatorSettings) : String :=
  writeHeader ["evaluator"] ++ writeEntry "program" (writeString settings.program) ++
    writeEntry "args" (writeStrings settings.args) ++ optionalEntry "dumper" settings.dumper? ++
    writeEntry "check_syntax" (writeBool settings.checkSyntax) ++
    match settings.timeoutSecs? with
    | none => ""
    | some seconds =>
        writeEntry "timeout_secs" (Text.decimal seconds.toNat)

def NamingSettings.write (settings : NamingSettings) : String :=
  writeHeader ["naming"] ++ writeEntry "initialisms" (writeStrings settings.initialisms.names) ++ "\n" ++
    writeHeader ["naming", "overrides"] ++ dictionaryEntries settings.overrides.entries

def CodegenSettings.write (settings : CodegenSettings) : String :=
  writeHeader ["codegen"] ++ writeEntry "root_type" (writeString settings.rootType) ++
    writeEntry "package" (writeString settings.package) ++
    writeEntry "format" (writeString settings.format.name) ++
    writeEntry "json_pretty" (writeBool settings.jsonPretty) ++
    optionalEntry "select" settings.select? ++ optionalEntry "output_dir" settings.outputDir? ++
    writeEntry "rustfmt" (writeBool settings.rustfmt)

def LoggingSettings.write (settings : LoggingSettings) : String :=
  writeHeader ["logging"] ++ writeEntry "level" (writeString settings.level) ++
    optionalEntry "file" settings.file?

def Configuration.write (config : Configuration) : String :=
  "\n".intercalate
    [config.module.write, config.evaluator.write, config.naming.write, config.codegen.write,
      config.logging.write]

end OptionSchema.Config
