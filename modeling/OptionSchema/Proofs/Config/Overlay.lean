import OptionSchema.Config.File
import OptionSchema.Proofs.Config.RoundTrip
import OptionSchema.Proofs.Dictionary

/-!
# Configurations as overlays

Loading lays a document over the default configuration field by field. A section reads each of its
settings on its own (`Overlays`), so taking a section or a setting out of a document takes exactly
its fields back to their defaults, and an unknown section or setting changes nothing
(`fromFile_overlay`).
-/

namespace OptionSchema.Config

open Dictionary (erase)
open Toml (Value)

variable {α : Type} {key name : String} {position : Nat} {value : Value}
variable {settings entries entries' : List (String × Value)}

/-! ## Settings -/

section

variable {read : Value → Option α} {standard found : α}

/-- A setting that is taken out of its section has its default value; the others stay. -/
theorem Source.setting_erase
    (present : (Source.named settings).setting position key read standard = some found) :
    (Source.named (erase name settings)).setting position key read standard =
      some (if name = key then standard else found) := by
  rw [setting, find?, Dictionary.get?_erase]
  by_cases erased : name = key
  · rw [if_pos erased, if_pos erased]
  · rw [if_neg erased, if_neg erased]
    exact present

theorem Source.setting_insert (other : name ≠ key) :
    (Source.named (Dictionary.insert name value settings)).setting position key read standard =
      (Source.named settings).setting position key read standard := by
  rw [setting, find?, Dictionary.get?_insert, if_neg other]
  rfl

end

/-! ## Sections

The fields of a setting and of a section with their default values. -/

def settingNames : String → List String
  | "module" => ["locator", "expr", "pkgs", "options_path", "special_args"]
  | "evaluator" => ["program", "args", "dumper", "check_syntax", "timeout_secs"]
  | "naming" => ["initialisms", "overrides"]
  | "codegen" =>
      ["root_type", "package", "format", "json_pretty", "select", "output_dir", "rustfmt"]
  | "logging" => ["level", "file"]
  | _ => []

def ModuleSettings.reset (name : String) (settings : ModuleSettings) : ModuleSettings where
  locator := if name = "locator" then standard.locator else settings.locator
  expr := if name = "expr" then standard.expr else settings.expr
  pkgs? := if name = "pkgs" then standard.pkgs? else settings.pkgs?
  optionsPath? := if name = "options_path" then standard.optionsPath? else settings.optionsPath?
  specialArgs := if name = "special_args" then standard.specialArgs else settings.specialArgs

def EvaluatorSettings.reset (name : String) (settings : EvaluatorSettings) : EvaluatorSettings where
  program := if name = "program" then standard.program else settings.program
  args := if name = "args" then standard.args else settings.args
  dumper? := if name = "dumper" then standard.dumper? else settings.dumper?
  checkSyntax := if name = "check_syntax" then standard.checkSyntax else settings.checkSyntax
  timeoutSecs? := if name = "timeout_secs" then standard.timeoutSecs? else settings.timeoutSecs?

def NamingSettings.reset (name : String) (settings : NamingSettings) : NamingSettings where
  initialisms := if name = "initialisms" then standard.initialisms else settings.initialisms
  overrides := if name = "overrides" then standard.overrides else settings.overrides

def CodegenSettings.reset (name : String) (settings : CodegenSettings) : CodegenSettings where
  rootType := if name = "root_type" then standard.rootType else settings.rootType
  package := if name = "package" then standard.package else settings.package
  format := if name = "format" then standard.format else settings.format
  jsonPretty := if name = "json_pretty" then standard.jsonPretty else settings.jsonPretty
  select? := if name = "select" then standard.select? else settings.select?
  outputDir? := if name = "output_dir" then standard.outputDir? else settings.outputDir?
  rustfmt := if name = "rustfmt" then standard.rustfmt else settings.rustfmt

def LoggingSettings.reset (name : String) (settings : LoggingSettings) : LoggingSettings where
  level := if name = "level" then standard.level else settings.level
  file? := if name = "file" then standard.file? else settings.file?

/-- A section reads each of its settings on its own, and has defaults for all of them. -/
structure Overlays (names : List String) (read : Source → Option α) (standard : α)
    (reset : String → α → α) : Prop where
  empty : read (.named []) = some standard
  erase : ∀ {settings found} (name), read (.named settings) = some found →
    read (.named (erase name settings)) = some (reset name found)
  insert : ∀ {settings name} (value), name ∉ names →
    read (.named (Dictionary.insert name value settings)) = read (.named settings)

theorem overlays_module :
    Overlays (settingNames "module") readModule .standard ModuleSettings.reset where
  empty := rfl
  erase name present := by
    simp only [readModule, Option.bind_eq_bind, Option.bind_eq_some_iff, Option.pure_def,
      Option.some.injEq] at present
    obtain ⟨locator, hasLocator, expr, hasExpr, pkgs?, hasPkgs, optionsPath?, hasPath, specialArgs,
      hasArgs, rfl⟩ := present
    simp only [readModule, Source.setting_erase hasLocator, Source.setting_erase hasExpr,
      Source.setting_erase hasPkgs, Source.setting_erase hasPath, Source.setting_erase hasArgs]
    rfl
  insert value unknown := by
    simp only [settingNames, List.mem_cons, not_or] at unknown
    simp (disch := simp [unknown]) only [readModule, Source.setting_insert]

theorem overlays_evaluator :
    Overlays (settingNames "evaluator") readEvaluator .standard EvaluatorSettings.reset where
  empty := rfl
  erase name present := by
    simp only [readEvaluator, Option.bind_eq_bind, Option.bind_eq_some_iff, Option.pure_def,
      Option.some.injEq] at present
    obtain ⟨program, hasProgram, args, hasArgs, dumper?, hasDumper, checkSyntax, hasCheck,
      timeoutSecs?, hasTimeout, rfl⟩ := present
    simp only [readEvaluator, Source.setting_erase hasProgram, Source.setting_erase hasArgs,
      Source.setting_erase hasDumper, Source.setting_erase hasCheck, Source.setting_erase hasTimeout]
    rfl
  insert value unknown := by
    simp only [settingNames, List.mem_cons, not_or] at unknown
    simp (disch := simp [unknown]) only [readEvaluator, Source.setting_insert]

theorem overlays_naming :
    Overlays (settingNames "naming") readNaming .standard NamingSettings.reset where
  empty := rfl
  erase name present := by
    simp only [readNaming, Option.bind_eq_bind, Option.bind_eq_some_iff, Option.pure_def,
      Option.some.injEq] at present
    obtain ⟨initialisms, hasInitialisms, overrides, hasOverrides, rfl⟩ := present
    simp only [readNaming, Source.setting_erase hasInitialisms, Source.setting_erase hasOverrides]
    rfl
  insert value unknown := by
    simp only [settingNames, List.mem_cons, not_or] at unknown
    simp (disch := simp [unknown]) only [readNaming, Source.setting_insert]

theorem overlays_codegen :
    Overlays (settingNames "codegen") readCodegen .standard CodegenSettings.reset where
  empty := rfl
  erase name present := by
    simp only [readCodegen, Option.bind_eq_bind, Option.bind_eq_some_iff, Option.pure_def,
      Option.some.injEq] at present
    obtain ⟨rootType, hasRootType, package, hasPackage, format, hasFormat, jsonPretty, hasPretty,
      select?, hasSelect, outputDir?, hasOutputDir, rustfmt, hasRustfmt, rfl⟩ := present
    simp only [readCodegen, Source.setting_erase hasRootType, Source.setting_erase hasPackage,
      Source.setting_erase hasFormat, Source.setting_erase hasPretty, Source.setting_erase hasSelect,
      Source.setting_erase hasOutputDir, Source.setting_erase hasRustfmt]
    rfl
  insert value unknown := by
    simp only [settingNames, List.mem_cons, not_or] at unknown
    simp (disch := simp [unknown]) only [readCodegen, Source.setting_insert]

theorem overlays_logging :
    Overlays (settingNames "logging") readLogging .standard LoggingSettings.reset where
  empty := rfl
  erase name present := by
    simp only [readLogging, Option.bind_eq_bind, Option.bind_eq_some_iff, Option.pure_def,
      Option.some.injEq] at present
    obtain ⟨level, hasLevel, file?, hasFile, rfl⟩ := present
    simp only [readLogging, Source.setting_erase hasLevel, Source.setting_erase hasFile]
    rfl
  insert value unknown := by
    simp only [settingNames, List.mem_cons, not_or] at unknown
    simp (disch := simp [unknown]) only [readLogging, Source.setting_insert]

/-! ## Parts of documents -/

/-- A part of a document: a whole section, or a setting of a section. -/
inductive Part where
  | whole (container : String)
  | setting (container name : String)

def namedSettings? (container : String) (entries : List (String × Value)) :
    Option (List (String × Value)) :=
  match Dictionary.get? container entries with
  | none => some []
  | some (.table settings) => some settings
  | some _ => none

namespace Part

variable {part : Part} {container : String}

def delete? : Part → List (String × Value) → Option (List (String × Value))
  | .whole container, entries =>
      if Dictionary.contains container entries then some (erase container entries) else none
  | .setting container name, entries => do
      let settings ← namedSettings? container entries
      if Dictionary.contains name settings then
        some (Dictionary.insert container (.table (erase name settings)) entries)
      else none

def add? (value : Value) : Part → List (String × Value) → Option (List (String × Value))
  | .whole container, entries =>
      if Dictionary.contains container entries then none
      else some (Dictionary.insert container value entries)
  | .setting container name, entries => do
      let settings ← namedSettings? container entries
      if Dictionary.contains name settings then none
      else some (Dictionary.insert container (.table (Dictionary.insert name value settings)) entries)

/-- A section that there is not, or a setting that its section cannot have. -/
def IsUnknown : Part → Prop
  | .whole container => container ∉ sectionNames
  | .setting container name => container ∈ sectionNames ∧ name ∉ settingNames container

def resetIn (part : Part) (container : String) (standard : α) (reset : String → α → α)
    (settings : α) : α :=
  match part with
  | .whole holder => if holder = container then standard else settings
  | .setting holder name => if holder = container then reset name settings else settings

end Part

/-- The configuration with default values for what belongs to a part of its document. -/
def Configuration.reset (part : Part) (config : Configuration) : Configuration where
  module := part.resetIn "module" .standard ModuleSettings.reset config.module
  evaluator := part.resetIn "evaluator" .standard EvaluatorSettings.reset config.evaluator
  naming := part.resetIn "naming" .standard NamingSettings.reset config.naming
  codegen := part.resetIn "codegen" .standard CodegenSettings.reset config.codegen
  logging := part.resetIn "logging" .standard LoggingSettings.reset config.logging

/-! ## Sections of a changed document -/

theorem entriesReadable_erase (name : String) (readable : Toml.entriesReadable settings = true) :
    Toml.entriesReadable (erase name settings) = true :=
  entriesReadable_iff.mpr fun entry member =>
    entriesReadable_iff.mp readable entry (Dictionary.mem_of_mem_erase member)

theorem entriesReadable_insert (fresh : Dictionary.get? name settings = none)
    (readable : value.isReadable = true) :
    Toml.entriesReadable (Dictionary.insert name value settings) = Toml.entriesReadable settings := by
  rw [Bool.eq_iff_iff, entriesReadable_iff, Dictionary.forall_mem_insert_iff fresh,
    entriesReadable_iff]
  exact and_iff_right readable

section

variable {container holder : String} {part : Part}

theorem get?_of_namedSettings? (named : namedSettings? container entries = some settings) :
    Dictionary.get? container entries = none ∧ settings = [] ∨
      Dictionary.get? container entries = some (.table settings) := by
  rw [namedSettings?] at named
  split at named
  · next absent =>
      cases named
      exact .inl ⟨absent, rfl⟩
  · next present =>
      cases named
      exact .inr present
  · cases named

theorem namedSettings?_insert_self : namedSettings? container
    (Dictionary.insert container (.table settings) entries) = some settings := by
  rw [namedSettings?, Dictionary.get?_insert, if_pos rfl]

namespace Part

theorem delete?_whole_eq_some_iff : (whole container).delete? entries = some entries' ↔
    Dictionary.contains container entries = true ∧ erase container entries = entries' := by
  rw [delete?, Option.ite_none_right_eq_some, Option.some.injEq]

theorem delete?_setting_eq_some_iff : (setting container name).delete? entries = some entries' ↔
    ∃ settings, namedSettings? container entries = some settings ∧
      Dictionary.contains name settings = true ∧
      Dictionary.insert container (.table (erase name settings)) entries = entries' := by
  rw [delete?, Option.bind_eq_bind, Option.bind_eq_some_iff]
  simp only [Option.ite_none_right_eq_some, Option.some.injEq]

theorem add?_whole_eq_some_iff : (whole container).add? value entries = some entries' ↔
    Dictionary.get? container entries = none ∧
      Dictionary.insert container value entries = entries' := by
  rw [add?, Option.ite_none_left_eq_some, Option.some.injEq, Dictionary.contains,
    Option.not_isSome_iff_eq_none]

theorem add?_setting_eq_some_iff : (setting container name).add? value entries = some entries' ↔
    ∃ settings, namedSettings? container entries = some settings ∧
      Dictionary.get? name settings = none ∧
      Dictionary.insert container (.table (Dictionary.insert name value settings)) entries =
        entries' := by
  rw [add?, Option.bind_eq_bind, Option.bind_eq_some_iff]
  refine exists_congr fun settings => and_congr_right fun _ => ?_
  rw [Option.ite_none_left_eq_some, Option.some.injEq, Dictionary.contains,
    Option.not_isSome_iff_eq_none]

end Part

variable {read : Source → Option α} {standard found : α} {reset : String → α → α}

theorem readSection_congr
    (same : Dictionary.get? container entries' = Dictionary.get? container entries) :
    readSection entries' container read standard = readSection entries container read standard := by
  rw [readSection, readSection, same]

namespace Overlays

variable (overlays : Overlays (settingNames container) read standard reset)

include overlays

/-- A section is read from the settings with a name that it has. -/
theorem readSection_eq (named : namedSettings? container entries = some settings) :
    readSection entries container read standard =
      if Toml.entriesReadable settings then read (.named settings) else none := by
  rw [readSection]
  rcases get?_of_namedSettings? named with ⟨absent, rfl⟩ | present
  · rw [absent]
    exact overlays.empty.symm
  · rw [present]
    change (if Toml.entriesReadable settings then some (Source.named settings) else none).bind read = _
    split <;> rfl

/-- Deleting a part of a document resets in a section what belongs to the part. -/
theorem readSection_delete (deleted : part.delete? entries = some entries')
    (present : readSection entries container read standard = some found) :
    readSection entries' container read standard =
      some (part.resetIn container standard reset found) := by
  cases part with
  | whole holder =>
      obtain ⟨-, rfl⟩ := Part.delete?_whole_eq_some_iff.mp deleted
      rw [Part.resetIn]
      by_cases same : holder = container
      · rw [if_pos same, readSection, Dictionary.get?_erase, if_pos same]
      · rw [if_neg same, ← present]
        exact readSection_congr (Dictionary.get?_erase.trans (if_neg same))
  | setting holder name =>
      obtain ⟨settings, named, -, rfl⟩ := Part.delete?_setting_eq_some_iff.mp deleted
      rw [Part.resetIn]
      by_cases same : holder = container
      · subst same
        rw [overlays.readSection_eq named, Option.ite_none_right_eq_some] at present
        obtain ⟨readable, isRead⟩ := present
        rw [overlays.readSection_eq namedSettings?_insert_self,
          if_pos (entriesReadable_erase name readable), if_pos rfl]
        exact overlays.erase name isRead
      · rw [if_neg same, ← present]
        exact readSection_congr (Dictionary.get?_insert.trans (if_neg same))

/-- Adding an unknown part to a document changes nothing in a section. -/
theorem readSection_add (known : container ∈ sectionNames) (unknown : part.IsUnknown)
    (readable : value.isReadable = true) (added : part.add? value entries = some entries') :
    readSection entries' container read standard = readSection entries container read standard := by
  cases part with
  | whole holder =>
      have apart : holder ≠ container := fun same => unknown (same ▸ known)
      obtain ⟨-, rfl⟩ := Part.add?_whole_eq_some_iff.mp added
      exact readSection_congr (Dictionary.get?_insert.trans (if_neg apart))
  | setting holder name =>
      obtain ⟨settings, named, fresh, rfl⟩ := Part.add?_setting_eq_some_iff.mp added
      by_cases same : holder = container
      · subst same
        rw [overlays.readSection_eq named, overlays.readSection_eq namedSettings?_insert_self,
          entriesReadable_insert fresh readable, overlays.insert value unknown.2]
      · exact readSection_congr (Dictionary.get?_insert.trans (if_neg same))

end Overlays

end

/-! ## Whole documents -/

section

variable {part : Part} {config : Configuration}

def IsReadable (entries : List (String × Value)) : Prop :=
  ∀ entry ∈ entries, entry.1 ∈ sectionNames ∨ entry.2.isReadable = true

theorem ofTable?_eq_some_iff : ofTable? entries = some config ↔ IsReadable entries ∧
    readSection entries "module" readModule .standard = some config.module ∧
    readSection entries "evaluator" readEvaluator .standard = some config.evaluator ∧
    readSection entries "naming" readNaming .standard = some config.naming ∧
    readSection entries "codegen" readCodegen .standard = some config.codegen ∧
    readSection entries "logging" readLogging .standard = some config.logging := by
  rw [ofTable?, Option.ite_none_right_eq_some, List.all_eq_true, ofSections?]
  refine and_congr (forall₂_congr fun entry _ => ?readable) ?_
  case readable =>
    rw [Bool.or_eq_true, List.contains_iff_mem]
  obtain ⟨module, evaluator, naming, codegen, logging⟩ := config
  simp only [Option.bind_eq_bind, Option.bind_eq_some_iff, Option.pure_def, Option.some.injEq,
    Configuration.mk.injEq]
  constructor
  · rintro ⟨_, hasModule, _, hasEvaluator, _, hasNaming, _, hasCodegen, _, hasLogging,
      rfl, rfl, rfl, rfl, rfl⟩
    exact ⟨hasModule, hasEvaluator, hasNaming, hasCodegen, hasLogging⟩
  · rintro ⟨hasModule, hasEvaluator, hasNaming, hasCodegen, hasLogging⟩
    exact ⟨_, hasModule, _, hasEvaluator, _, hasNaming, _, hasCodegen, _, hasLogging,
      rfl, rfl, rfl, rfl, rfl⟩

theorem IsReadable.delete (readable : IsReadable entries)
    (deleted : part.delete? entries = some entries') : IsReadable entries' := by
  cases part with
  | whole container =>
      obtain ⟨-, rfl⟩ := Part.delete?_whole_eq_some_iff.mp deleted
      exact fun entry member => readable entry (Dictionary.mem_of_mem_erase member)
  | setting container name =>
      obtain ⟨settings, named, present, rfl⟩ := Part.delete?_setting_eq_some_iff.mp deleted
      intro entry member
      rcases Dictionary.mem_insert member with rfl | earlier
      · rcases get?_of_namedSettings? named with ⟨-, rfl⟩ | isTable
        · exact .inr rfl
        · refine (readable _ (Dictionary.mem_of_get? isTable)).imp_right fun isReadable => ?_
          rw [Value.isReadable] at isReadable ⊢
          exact entriesReadable_erase name isReadable
      · exact readable entry earlier

theorem isReadable_add_iff (unknown : part.IsUnknown) (readable : value.isReadable = true)
    (added : part.add? value entries = some entries') :
    IsReadable entries' ↔ IsReadable entries := by
  cases part with
  | whole container =>
      obtain ⟨fresh, rfl⟩ := Part.add?_whole_eq_some_iff.mp added
      rw [IsReadable, Dictionary.forall_mem_insert_iff fresh]
      exact and_iff_right (.inr readable)
  | setting container name =>
      obtain ⟨settings, -, -, rfl⟩ := Part.add?_setting_eq_some_iff.mp added
      constructor
      · intro all entry member
        by_cases same : entry.1 = container
        · exact .inl (same ▸ unknown.1)
        · exact all entry (Dictionary.mem_insert_of_ne member same)
      · intro all entry member
        rcases Dictionary.mem_insert member with rfl | earlier
        · exact .inl unknown.1
        · exact all entry earlier

/-- The table of a document without one of its parts denotes the configuration with default values
for the part. -/
theorem ofTable?_delete (deleted : part.delete? entries = some entries')
    (denoted : ofTable? entries = some config) : ofTable? entries' = some (config.reset part) := by
  obtain ⟨readable, module, evaluator, naming, codegen, logging⟩ := ofTable?_eq_some_iff.mp denoted
  exact ofTable?_eq_some_iff.mpr ⟨readable.delete deleted,
    overlays_module.readSection_delete deleted module,
    overlays_evaluator.readSection_delete deleted evaluator,
    overlays_naming.readSection_delete deleted naming,
    overlays_codegen.readSection_delete deleted codegen,
    overlays_logging.readSection_delete deleted logging⟩

/-- The table of a document with an unknown part added denotes the same configuration, or none. -/
theorem ofTable?_add (unknown : part.IsUnknown) (readable : value.isReadable = true)
    (added : part.add? value entries = some entries') : ofTable? entries' = ofTable? entries := by
  refine Option.ext fun config => ?_
  rw [ofTable?_eq_some_iff, ofTable?_eq_some_iff, isReadable_add_iff unknown readable added,
    overlays_module.readSection_add (by decide) unknown readable added,
    overlays_evaluator.readSection_add (by decide) unknown readable added,
    overlays_naming.readSection_add (by decide) unknown readable added,
    overlays_codegen.readSection_add (by decide) unknown readable added,
    overlays_logging.readSection_add (by decide) unknown readable added]

def documentTable? (contents : ByteArray) : Option (List (String × Value)) :=
  (String.fromUTF8? contents).bind Toml.document?

theorem documentTable?_toUTF8 (text : String) :
    documentTable? text.toUTF8 = Toml.document? text := by
  rw [documentTable?, fromUTF8?_toUTF8, Option.bind_some]

theorem fromFile_of_table {contents : ByteArray} (written : documentTable? contents = some entries) :
    fromFile (some contents) =
      match ofTable? entries with
      | some config => .ok config
      | none => .error .parse := by
  obtain ⟨text, isText, written⟩ := Option.bind_eq_some_iff.mp written
  rw [fromFile, isText]
  change ofText text = _
  cases denoted : ofTable? entries <;> simp [ofText, written, denoted]

/-- A file is loaded if it has a table and this denotes a configuration. -/
theorem fromFile_eq_ok_iff {contents : ByteArray} : fromFile (some contents) = .ok config ↔
    ∃ entries, documentTable? contents = some entries ∧ ofTable? entries = some config := by
  constructor
  · intro loaded
    cases written : documentTable? contents with
    | some entries =>
        rw [fromFile_of_table written] at loaded
        split at loaded
        · next denoted =>
            cases loaded
            exact ⟨entries, rfl, denoted⟩
        · cases loaded
    | none =>
        rw [fromFile] at loaded
        split at loaded
        · next text isText =>
            rw [documentTable?, isText, Option.bind_some] at written
            rw [ofText, written] at loaded
            cases loaded
        · cases loaded
  · rintro ⟨entries, written, denoted⟩
    rw [fromFile_of_table written, denoted]

end

/-- Loading is an overlay on the default configuration. An accepted document has a table, and without
one of the sections or settings in it is accepted as the same configuration with default values for
what was taken out. An unknown section, or an unknown setting of a section, changes nothing, whatever
its value is; a number that cannot be represented is no value. -/
theorem fromFile_overlay :
    (∀ contents config, fromFile (some contents) = .ok config →
      ∃ entries, documentTable? contents = some entries ∧
        ∀ part contents' entries', documentTable? contents' = some entries' →
          Part.delete? part entries = some entries' →
          fromFile (some contents') = .ok (config.reset part)) ∧
    ∀ part value contents entries contents' entries', documentTable? contents = some entries →
      documentTable? contents' = some entries' → Part.IsUnknown part →
      Value.isReadable value = true → part.add? value entries = some entries' →
      fromFile (some contents') = fromFile (some contents) := by
  constructor
  · intro contents config loaded
    obtain ⟨entries, written, denoted⟩ := fromFile_eq_ok_iff.mp loaded
    refine ⟨entries, written, fun part contents' entries' written' deleted => ?_⟩
    exact fromFile_eq_ok_iff.mpr ⟨entries', written', ofTable?_delete deleted denoted⟩
  · intro part value contents entries contents' entries' written written' unknown readable added
    rw [fromFile_of_table written, fromFile_of_table written', ofTable?_add unknown readable added]

def loggingDocument : String :=
  LoggingSettings.write ⟨"debug", some "log"⟩

def extendedDocument : String :=
  loggingDocument ++ (Toml.writeHeader ["extra"] ++ Toml.writeEntry "on" (Toml.writeBool true))

theorem head?_toList_logging (settings : LoggingSettings) :
    settings.write.toList.head? = some '[' := by
  rw [LoggingSettings.write, String.toList_append, String.toList_append]
  rfl

theorem documentTable?_logging (settings : LoggingSettings) :
    documentTable? settings.write.toUTF8 =
      some [("logging", .table (Dictionary.ofPairs settings.entries))] := by
  have taken := @LoggingSettings.takes_write (.start .header) [] settings rfl
  rw [documentTable?_toUTF8,
    Toml.document?_of_takes taken (by rw [head?_toList_logging]; decide), Toml.Table.itemValues_set,
    Toml.Item.toValue, Toml.Table.toValue_eq, Toml.Table.itemValues_ofEntries]
  rfl

theorem documentTable?_extendedDocument : documentTable? extendedDocument.toUTF8 =
    some [("extra", .table [("on", .boolean true)]),
      ("logging", .table [("file", .string "log"), ("level", .string "debug")])] := by
  have taken := (@LoggingSettings.takes_write (.start .header) [] ⟨"debug", some "log"⟩ rfl).append
    (Toml.Draft.takes_section ["logging"] (by decide : Toml.IsBareKey "extra") rfl
      (.entry (Toml.spells_bool true) : Toml.Lines (Toml.writeEntry "on" _).toList _) (by decide))
  have first : extendedDocument.toList.head? = some '[' := by
    rw [extendedDocument, String.toList_append, loggingDocument, List.head?_append,
      head?_toList_logging]
    rfl
  rw [← String.toList_append, ← String.toList_append] at taken
  exact (documentTable?_toUTF8 _).trans
    (Toml.document?_of_takes taken (by rw [← loggingDocument, ← extendedDocument, first]; decide))

/-- Without its file the logging has none, and an extra section changes nothing. -/
theorem fromFile_overlay_loggingDocument :
    fromFile (some loggingDocument.toUTF8) =
      .ok { Configuration.standard with logging := ⟨"debug", some "log"⟩ } ∧
    fromFile (some (LoggingSettings.write ⟨"debug", none⟩).toUTF8) =
      .ok { Configuration.standard with logging := ⟨"debug", none⟩ } ∧
    fromFile (some extendedDocument.toUTF8) =
      .ok { Configuration.standard with logging := ⟨"debug", some "log"⟩ } := by
  have written : documentTable? loggingDocument.toUTF8 = _ :=
    documentTable?_logging ⟨"debug", some "log"⟩
  have loaded : fromFile (some loggingDocument.toUTF8) =
      .ok { Configuration.standard with logging := ⟨"debug", some "log"⟩ } := by
    rw [fromFile_of_table written]
    rfl
  obtain ⟨delete, add⟩ := fromFile_overlay
  obtain ⟨entries, sameTable, without⟩ := delete _ _ loaded
  rw [written, Option.some.injEq] at sameTable
  subst sameTable
  exact ⟨loaded,
    without (.setting "logging" "file") _ _ (documentTable?_logging ⟨"debug", none⟩) rfl,
    (add (.whole "extra") (.table [("on", .boolean true)]) _ _ _ _ written
      documentTable?_extendedDocument (by decide : "extra" ∉ sectionNames) rfl rfl).trans loaded⟩

end OptionSchema.Config
