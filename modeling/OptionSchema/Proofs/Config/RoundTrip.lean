import OptionSchema.Config.File
import OptionSchema.Config.Save
import OptionSchema.Proofs.FileStore
import OptionSchema.Proofs.Toml.Document

/-!
# Reading saved configurations

A configuration that is written to a file is read from it as the same configuration. Main statement:
`fromFile_saved`.
-/

namespace OptionSchema.Config

open Toml (Draft IsBareKey Lines Spells Table Value)

/-! ## Settings on lines -/

def textEntries (entries : List (String × String)) : List (String × Value) :=
  entries.map fun (key, text) => (key, .string text)

def optionalEntries (key : String) (text? : Option String) : List (String × Value) :=
  text?.toList.map fun text => (key, .string text)

theorem lines_text (key text : String) :
    Lines (Toml.writeEntry key (Toml.writeString text)).toList [(key, .string text)] :=
  .entry (Toml.spells_string text)

theorem lines_optionalEntry (key : String) (text? : Option String) :
    Lines (optionalEntry key text?).toList (optionalEntries key text?) := by
  cases text? with
  | none => exact .nil
  | some text => exact lines_text key text

theorem lines_dictionaryEntries (entries : List (String × String)) :
    Lines (dictionaryEntries entries).toList (textEntries entries) := by
  rw [dictionaryEntries, String.toList_join]
  induction entries with
  | nil => exact .nil
  | cons entry entries ih => exact .append (lines_text entry.1 entry.2) ih

theorem keys_textEntries (entries : List (String × String)) :
    Dictionary.keys (textEntries entries) = Dictionary.keys entries := by
  simp [Dictionary.keys, textEntries, Function.comp_def]

theorem nodup_keys_textEntries (texts : NameMap String) :
    (Dictionary.keys (textEntries texts.entries)).Nodup := by
  rw [keys_textEntries]
  exact List.Pairwise.imp String.ne_of_lt texts.ascending

def ModuleSettings.entries (settings : ModuleSettings) : List (String × Value) :=
  [("locator", .string settings.locator), ("expr", .boolean settings.expr)] ++
    optionalEntries "pkgs" settings.pkgs? ++ optionalEntries "options_path" settings.optionsPath?

def EvaluatorSettings.entries (settings : EvaluatorSettings) : List (String × Value) :=
  [("program", .string settings.program), ("args", .array (settings.args.map .string))] ++
    optionalEntries "dumper" settings.dumper? ++ [("check_syntax", .boolean settings.checkSyntax)] ++
    settings.timeoutSecs?.toList.map fun seconds => ("timeout_secs", Toml.integerValue seconds.toNat)

def NamingSettings.entries (settings : NamingSettings) : List (String × Value) :=
  [("initialisms", .array (settings.initialisms.names.map .string))]

def CodegenSettings.entries (settings : CodegenSettings) : List (String × Value) :=
  [("root_type", .string settings.rootType), ("package", .string settings.package),
    ("format", .string settings.format.name), ("json_pretty", .boolean settings.jsonPretty)] ++
    optionalEntries "select" settings.select? ++ optionalEntries "output_dir" settings.outputDir? ++
    [("rustfmt", .boolean settings.rustfmt)]

def LoggingSettings.entries (settings : LoggingSettings) : List (String × Value) :=
  ("level", .string settings.level) :: optionalEntries "file" settings.file?

def nestedTable (entries : List (String × Value)) (sub : String) (texts : NameMap String) : Table :=
  (Table.ofEntries entries).set sub (.table (.ofEntries (textEntries texts.entries)))

/-! ## What is written -/

section

variable {root : Table} (current : List String)

/-- A section with a table of texts inside. -/
theorem takes_nested {name sub : String} {text : List Char} {entries : List (String × Value)}
    (texts : NameMap String) (bare : IsBareKey name) (bareSub : IsBareKey sub)
    (lines : Lines text entries) (distinct : (sub :: Dictionary.keys entries).Nodup)
    (free : Dictionary.get? name root.items = none) :
    Draft.Takes ⟨root, current⟩
      ((Toml.writeHeader [name]).toList ++ text ++
        '\n' :: ((Toml.writeHeader [name, sub]).toList ++ (dictionaryEntries texts.entries).toList))
      ⟨root.set name (.table (nestedTable entries sub texts)), [name, sub]⟩ := by
  obtain ⟨apart, distinct⟩ := List.nodup_cons.mp distinct
  have freeSub : Dictionary.get? sub (Table.ofEntries entries).items = none :=
    Table.get?_items_ofEntries apart
  exact (Draft.takes_section current bare free lines distinct).append
    (Draft.takes_subsection bare bareSub freeSub (lines_dictionaryEntries texts.entries)
      (nodup_keys_textEntries texts))

theorem ModuleSettings.takes_write (settings : ModuleSettings)
    (free : Dictionary.get? "module" root.items = none) :
    Draft.Takes ⟨root, current⟩ settings.write.toList
      ⟨root.set "module" (.table (nestedTable settings.entries "special_args" settings.specialArgs)),
        ["module", "special_args"]⟩ := by
  have lines : Lines _ settings.entries :=
    (((lines_text "locator" settings.locator).append (.entry (Toml.spells_bool settings.expr))).append
      (lines_optionalEntry "pkgs" settings.pkgs?)).append
      (lines_optionalEntry "options_path" settings.optionsPath?)
  have distinct : ("special_args" :: Dictionary.keys settings.entries).Nodup := by
    simp only [entries, optionalEntries]
    cases settings.pkgs? <;> cases settings.optionsPath? <;> simp
  have taken := takes_nested current settings.specialArgs (by decide) (by decide) lines distinct free
  simpa [write] using taken

theorem EvaluatorSettings.takes_write (settings : EvaluatorSettings)
    (free : Dictionary.get? "evaluator" root.items = none) :
    Draft.Takes ⟨root, current⟩ settings.write.toList
      ⟨root.set "evaluator" (.table (.ofEntries settings.entries)), ["evaluator"]⟩ := by
  obtain ⟨seconds, written, linesOfSeconds⟩ : ∃ text, settings.write.toList =
      (Toml.writeHeader ["evaluator"]).toList ++
        ((Toml.writeEntry "program" (Toml.writeString settings.program)).toList ++
          (Toml.writeEntry "args" (Toml.writeStrings settings.args)).toList ++
          (optionalEntry "dumper" settings.dumper?).toList ++
          (Toml.writeEntry "check_syntax" (Toml.writeBool settings.checkSyntax)).toList ++ text) ∧
      Lines text (settings.timeoutSecs?.toList.map fun seconds =>
        ("timeout_secs", Toml.integerValue seconds.toNat)) := by
    rw [write]
    cases settings.timeoutSecs? with
    | none => exact ⟨[], by simp, .nil⟩
    | some seconds => exact ⟨_, by simp, .entry (Toml.spells_decimal seconds.toNat)⟩
  have lines : Lines _ settings.entries :=
    ((((lines_text "program" settings.program).append
      (.entry (Toml.spells_strings settings.args))).append
      (lines_optionalEntry "dumper" settings.dumper?)).append
      (.entry (Toml.spells_bool settings.checkSyntax))).append linesOfSeconds
  have distinct : (Dictionary.keys settings.entries).Nodup := by
    simp only [entries, optionalEntries]
    cases settings.dumper? <;> cases settings.timeoutSecs? <;> simp
  rw [written]
  exact Draft.takes_section current (by decide) free lines distinct

theorem NamingSettings.takes_write (settings : NamingSettings)
    (free : Dictionary.get? "naming" root.items = none) :
    Draft.Takes ⟨root, current⟩ settings.write.toList
      ⟨root.set "naming" (.table (nestedTable settings.entries "overrides" settings.overrides)),
        ["naming", "overrides"]⟩ := by
  have lines : Lines _ settings.entries := .entry (Toml.spells_strings settings.initialisms.names)
  have distinct : ("overrides" :: Dictionary.keys settings.entries).Nodup := by simp [entries]
  have taken := takes_nested current settings.overrides (by decide) (by decide) lines distinct free
  simpa [write] using taken

theorem CodegenSettings.takes_write (settings : CodegenSettings)
    (free : Dictionary.get? "codegen" root.items = none) :
    Draft.Takes ⟨root, current⟩ settings.write.toList
      ⟨root.set "codegen" (.table (.ofEntries settings.entries)), ["codegen"]⟩ := by
  have lines : Lines _ settings.entries :=
    ((((((lines_text "root_type" settings.rootType).append
      (lines_text "package" settings.package)).append
      (lines_text "format" settings.format.name)).append
      (.entry (Toml.spells_bool settings.jsonPretty))).append
      (lines_optionalEntry "select" settings.select?)).append
      (lines_optionalEntry "output_dir" settings.outputDir?)).append
      (.entry (Toml.spells_bool settings.rustfmt))
  have distinct : (Dictionary.keys settings.entries).Nodup := by
    simp only [entries, optionalEntries]
    cases settings.select? <;> cases settings.outputDir? <;> simp
  have taken := Draft.takes_section current (by decide) free lines distinct
  rw [write]
  simpa using taken

theorem LoggingSettings.takes_write (settings : LoggingSettings)
    (free : Dictionary.get? "logging" root.items = none) :
    Draft.Takes ⟨root, current⟩ settings.write.toList
      ⟨root.set "logging" (.table (.ofEntries settings.entries)), ["logging"]⟩ := by
  have lines := (lines_text "level" settings.level).append (lines_optionalEntry "file" settings.file?)
  have distinct : (Dictionary.keys settings.entries).Nodup := by
    simp only [entries, optionalEntries]
    cases settings.file? <;> simp
  rw [write, String.toList_append, String.toList_append, List.append_assoc]
  exact Draft.takes_section current (by decide) free lines distinct

end

def Configuration.root (config : Configuration) : Table :=
  let module := nestedTable config.module.entries "special_args" config.module.specialArgs
  let naming := nestedTable config.naming.entries "overrides" config.naming.overrides
  ((((Table.start .header).set "module" (.table module)).set "evaluator"
    (.table (.ofEntries config.evaluator.entries))).set "naming" (.table naming)).set "codegen"
    (.table (.ofEntries config.codegen.entries)) |>.set "logging"
    (.table (.ofEntries config.logging.entries))

def nestedValues (entries : List (String × Value)) (sub : String) (texts : NameMap String) :
    List (String × Value) :=
  Dictionary.insert sub (.table (textEntries texts.entries)) (Dictionary.ofPairs entries)

def Configuration.values (config : Configuration) : List (String × Value) :=
  [("codegen", .table (Dictionary.ofPairs config.codegen.entries)),
    ("evaluator", .table (Dictionary.ofPairs config.evaluator.entries)),
    ("logging", .table (Dictionary.ofPairs config.logging.entries)),
    ("module", .table (nestedValues config.module.entries "special_args" config.module.specialArgs)),
    ("naming", .table (nestedValues config.naming.entries "overrides" config.naming.overrides))]

theorem itemValues_nestedTable {entries : List (String × Value)} {sub : String}
    {texts : NameMap String} :
    Toml.itemValues (nestedTable entries sub texts).items = nestedValues entries sub texts := by
  have same : Dictionary.ofPairs (textEntries texts.entries) = textEntries texts.entries :=
    (texts.ascending.of_keys_eq (keys_textEntries texts.entries)).ofPairs_eq
  rw [nestedTable, Table.itemValues_set, Table.itemValues_ofEntries, Toml.Item.toValue,
    Table.toValue_eq, Table.itemValues_ofEntries, same, nestedValues]

theorem Configuration.itemValues_root (config : Configuration) :
    Toml.itemValues config.root.items = config.values := by
  simp only [root, Table.itemValues_set, Toml.Item.toValue, Table.toValue_eq,
    Table.itemValues_ofEntries, itemValues_nestedTable]
  rfl

theorem Configuration.takes_write (config : Configuration) :
    Draft.Takes ⟨.start .header, []⟩ config.write.toList ⟨config.root, ["logging"]⟩ := by
  have written : config.write.toList =
      config.module.write.toList ++ ['\n'] ++ config.evaluator.write.toList ++ ['\n'] ++
        config.naming.write.toList ++ ['\n'] ++ config.codegen.write.toList ++ ['\n'] ++
        config.logging.write.toList := by
    simp [write]
  have module := @ModuleSettings.takes_write (.start .header) [] config.module rfl
  have evaluator := (module.append (Draft.takes_blank _)).append (config.evaluator.takes_write _ rfl)
  have naming := (evaluator.append (Draft.takes_blank _)).append
    (config.naming.takes_write _ rfl)
  have codegen := (naming.append (Draft.takes_blank _)).append (config.codegen.takes_write _ rfl)
  rw [written]
  exact (codegen.append (Draft.takes_blank _)).append (config.logging.takes_write _ rfl)

theorem Configuration.document?_write (config : Configuration) :
    Toml.document? config.write = some config.values := by
  have header : (Toml.writeHeader ["module"]).toList = '[' :: "module]\n".toList := rfl
  have first : config.write.toList.head? = some '[' := by
    simp [write, ModuleSettings.write, header]
  rw [Toml.document?_of_takes config.takes_write (by rw [first]; decide),
    config.itemValues_root]

/-! ## What is read -/

theorem entriesReadable_iff {entries : List (String × Value)} :
    Toml.entriesReadable entries = true ↔ ∀ entry ∈ entries, entry.2.isReadable = true := by
  induction entries with
  | nil => simp [Toml.entriesReadable]
  | cons entry entries ih =>
      rw [Toml.entriesReadable, Bool.and_eq_true, ih, List.forall_mem_cons]

theorem itemsReadable_texts (texts : List String) : Toml.itemsReadable (texts.map .string) = true := by
  induction texts with
  | nil => rfl
  | cons text texts ih =>
      rw [List.map_cons, Toml.itemsReadable, ih]
      rfl

theorem entriesReadable_textEntries (texts : List (String × String)) :
    Toml.entriesReadable (textEntries texts) = true := by
  induction texts with
  | nil => rfl
  | cons entry texts ih =>
      rw [textEntries, List.map_cons, ← textEntries, Toml.entriesReadable, ih]
      rfl

/-- A table whose entries can be read is a section with these entries. -/
theorem Source.ofValue?_table {entries : List (String × Value)}
    (readable : ∀ entry ∈ entries, entry.2.isReadable = true) :
    Source.ofValue? (.table entries) = some (.named entries) := by
  have isReadable : (Value.table entries).isReadable = true := by
    rw [Value.isReadable, entriesReadable_iff]
    exact readable
  rw [Source.ofValue?, if_pos isReadable]
  · rfl
  · exact nofun

theorem Source.ofValue?_ofPairs {entries : List (String × Value)}
    (readable : Toml.entriesReadable entries = true) :
    Source.ofValue? (.table (Dictionary.ofPairs entries)) =
      some (.named (Dictionary.ofPairs entries)) :=
  Source.ofValue?_table fun entry member =>
    entriesReadable_iff.mp readable entry (Dictionary.mem_of_mem_ofPairs member)

theorem Source.ofValue?_nestedValues {entries : List (String × Value)} (sub : String)
    (texts : NameMap String) (readable : Toml.entriesReadable entries = true) :
    Source.ofValue? (.table (nestedValues entries sub texts)) =
      some (.named (nestedValues entries sub texts)) := by
  refine Source.ofValue?_table fun entry member => ?_
  rcases Dictionary.mem_insert member with rfl | earlier
  · exact entriesReadable_textEntries texts.entries
  · exact entriesReadable_iff.mp readable entry (Dictionary.mem_of_mem_ofPairs earlier)

theorem readTexts_strings (texts : List String) :
    readTexts (.array (texts.map .string)) = some texts := by
  rw [readTexts, List.mapM_map]
  induction texts with
  | nil => rfl
  | cons text texts ih =>
      rw [List.mapM_cons, ih]
      rfl

theorem mapM_textEntries (texts : List (String × String)) :
    ((textEntries texts).mapM fun (key, value) => (readText value).map (key, ·)) = some texts := by
  rw [textEntries, List.mapM_map]
  induction texts with
  | nil => rfl
  | cons entry texts ih =>
      rw [List.mapM_cons, ih]
      rfl

theorem readDictionary_textEntries (texts : NameMap String) :
    readDictionary (.table (textEntries texts.entries)) = some texts := by
  change ((textEntries texts.entries).mapM _ >>= fun texts => some (NameMap.ofPairs texts)) = _
  rw [mapM_textEntries, Option.bind_eq_bind, Option.bind_some, NameMap.ofPairs_entries]

theorem integerValue_word (n : UInt64) : Toml.integerValue n.toNat = .integer n.toNat := by
  have below := n.toNat_lt
  have fits : Toml.isRepresentable n.toNat = true := by
    have bounds : (0 : Int) ≤ Int.pow 2 127 ∧ (0x1_0000_0000_0000_0000 : Int) ≤ Int.pow 2 128 := by
      decide
    rw [Toml.isRepresentable, Bool.and_eq_true, decide_eq_true_eq, decide_eq_true_eq]
    omega
  rw [Toml.integerValue, if_pos fits]

theorem readWord_integerValue (n : UInt64) : readWord (Toml.integerValue n.toNat) = some n := by
  have below := n.toNat_lt
  rw [integerValue_word, readWord, if_pos (by omega)]
  simp

theorem readNames_strings (set : NameSet) :
    readNames (.array (set.names.map .string)) = some set := by
  rw [readNames, readTexts_strings, Option.map_some, NameSet.ofList_names]

theorem readModule_values (settings : ModuleSettings) :
    readModule (.named (nestedValues settings.entries "special_args" settings.specialArgs)) =
      some settings := by
  have dictionary := readDictionary_textEntries settings.specialArgs
  obtain ⟨locator, expr, pkgs?, optionsPath?, specialArgs⟩ := settings
  cases pkgs? <;> cases optionsPath? <;>
    simp [readModule, Source.setting, Source.find?, nestedValues, Dictionary.get?_insert,
      Dictionary.get?, Dictionary.ofPairs, ModuleSettings.entries, optionalEntries, readText, readBool,
      optional, ModuleSettings.standard, dictionary]

theorem readEvaluator_values (settings : EvaluatorSettings) :
    readEvaluator (.named (Dictionary.ofPairs settings.entries)) = some settings := by
  have args := readTexts_strings settings.args
  obtain ⟨program, args, dumper?, checkSyntax, timeoutSecs?⟩ := settings
  cases dumper? <;> cases timeoutSecs? <;>
    simp [readEvaluator, Source.setting, Source.find?, Dictionary.get?_insert, Dictionary.get?,
      Dictionary.ofPairs, EvaluatorSettings.entries, optionalEntries, readText, readBool, optional,
      EvaluatorSettings.standard, args, readWord_integerValue]

theorem readNaming_values (settings : NamingSettings) :
    readNaming (.named (nestedValues settings.entries "overrides" settings.overrides)) =
      some settings := by
  have names := readNames_strings settings.initialisms
  have dictionary := readDictionary_textEntries settings.overrides
  simp [readNaming, Source.setting, Source.find?, nestedValues, Dictionary.get?_insert,
    Dictionary.ofPairs, NamingSettings.entries, names, dictionary]

theorem readFormat_name (format : OutputFormat) : readFormat (.string format.name) = some format := by
  cases format <;> rfl

theorem readCodegen_values (settings : CodegenSettings) :
    readCodegen (.named (Dictionary.ofPairs settings.entries)) = some settings := by
  have format := readFormat_name settings.format
  obtain ⟨rootType, package, format, jsonPretty, select?, outputDir?, rustfmt⟩ := settings
  cases select? <;> cases outputDir? <;>
    simp [readCodegen, Source.setting, Source.find?, Dictionary.get?_insert, Dictionary.get?,
      Dictionary.ofPairs, CodegenSettings.entries, optionalEntries, readText, readBool, optional,
      CodegenSettings.standard, format]

theorem readLogging_values (settings : LoggingSettings) :
    readLogging (.named (Dictionary.ofPairs settings.entries)) = some settings := by
  obtain ⟨level, file?⟩ := settings
  cases file? <;>
    simp [readLogging, Source.setting, Source.find?, Dictionary.get?_insert, Dictionary.get?,
      Dictionary.ofPairs, LoggingSettings.entries, optionalEntries, readText, optional,
      LoggingSettings.standard]

/-! ## Configurations -/

theorem ModuleSettings.entriesReadable (settings : ModuleSettings) :
    Toml.entriesReadable settings.entries = true := by
  obtain ⟨locator, expr, pkgs?, optionsPath?, specialArgs⟩ := settings
  cases pkgs? <;> cases optionsPath? <;> rfl

theorem EvaluatorSettings.entriesReadable (settings : EvaluatorSettings) :
    Toml.entriesReadable settings.entries = true := by
  have args := itemsReadable_texts settings.args
  obtain ⟨program, args, dumper?, checkSyntax, timeoutSecs?⟩ := settings
  cases dumper? <;> cases timeoutSecs? <;>
    simp [entries, optionalEntries, Toml.entriesReadable, Toml.Value.isReadable, args,
      integerValue_word]

theorem NamingSettings.entriesReadable (settings : NamingSettings) :
    Toml.entriesReadable settings.entries = true := by
  simp [entries, Toml.entriesReadable, Toml.Value.isReadable, itemsReadable_texts]

theorem CodegenSettings.entriesReadable (settings : CodegenSettings) :
    Toml.entriesReadable settings.entries = true := by
  obtain ⟨rootType, package, format, jsonPretty, select?, outputDir?, rustfmt⟩ := settings
  cases select? <;> cases outputDir? <;> rfl

theorem LoggingSettings.entriesReadable (settings : LoggingSettings) :
    Toml.entriesReadable settings.entries = true := by
  obtain ⟨level, file?⟩ := settings
  cases file? <;> rfl

theorem readSection_eq {α : Type} {entries : List (String × Value)} {name : String} {value : Value}
    {source : Source} {read : Source → Option α} {standard settings : α}
    (found : Dictionary.get? name entries = some value)
    (isSource : Source.ofValue? value = some source) (isRead : read source = some settings) :
    readSection entries name read standard = some settings := by
  rw [readSection, found]
  change (Source.ofValue? value).bind read = _
  rw [isSource]
  exact isRead

theorem Configuration.ofTable?_values (config : Configuration) :
    ofTable? config.values = some config := by
  have module : readSection config.values "module" readModule .standard = some config.module :=
    readSection_eq rfl (Source.ofValue?_nestedValues _ _ config.module.entriesReadable)
      (readModule_values config.module)
  have evaluator : readSection config.values "evaluator" readEvaluator .standard =
      some config.evaluator :=
    readSection_eq rfl (Source.ofValue?_ofPairs config.evaluator.entriesReadable)
      (readEvaluator_values config.evaluator)
  have naming : readSection config.values "naming" readNaming .standard = some config.naming :=
    readSection_eq rfl (Source.ofValue?_nestedValues _ _ config.naming.entriesReadable)
      (readNaming_values config.naming)
  have codegen : readSection config.values "codegen" readCodegen .standard = some config.codegen :=
    readSection_eq rfl (Source.ofValue?_ofPairs config.codegen.entriesReadable)
      (readCodegen_values config.codegen)
  have logging : readSection config.values "logging" readLogging .standard = some config.logging :=
    readSection_eq rfl (Source.ofValue?_ofPairs config.logging.entriesReadable)
      (readLogging_values config.logging)
  rw [ofTable?, if_pos, ofSections?, module, evaluator, naming, codegen, logging]
  · rfl
  · rfl

/-- The text of a configuration is read as the configuration. -/
theorem ofText_write (config : Configuration) : ofText config.write = .ok config := by
  rw [ofText, config.document?_write, Option.bind_some, config.ofTable?_values]

theorem fromUTF8?_toUTF8 (text : String) : String.fromUTF8? text.toUTF8 = some text := by
  have valid : text.toUTF8.IsValidUTF8 := text.isValidUTF8
  rw [String.fromUTF8?, dif_pos valid]
  rfl

theorem fromFile_write (config : Configuration) :
    fromFile (some config.write.toUTF8) = .ok config := by
  rw [fromFile, fromUTF8?_toUTF8]
  exact ofText_write config

/-- A configuration that has been saved is read from the file that its path leads to, as the same
configuration. -/
theorem fromFile_saved {config : Configuration} {store store' : FileStore} {directory : List String}
    {path : String}
    (saved : store.write directory path config.write.toUTF8 = .ok store') :
    ∃ place, store'.resolve directory path = .ok place ∧
      fromFile (store'.read? place) = .ok config := by
  obtain ⟨place, found, same⟩ := Outcome.bind_eq_ok.mp saved
  obtain ⟨resolved, notDirectory⟩ := FileStore.fileAt_eq_ok found
  cases same
  refine ⟨place, FileStore.resolve_put resolved notDirectory _, ?_⟩
  rw [FileStore.read?_put_self]
  exact fromFile_write config

/-- A configuration with texts of every form, an absent and a present table, and settings that differ
from the default ones. -/
def quotedConfiguration : Configuration where
  module := ⟨"./module.nix", false, some "import <nixpkgs> \x7b \x7d", none,
    .ofPairs [("", "\"\"\""), ("a b", "'x'\n\"y\""), ("size", "1\t\\\x7f")]⟩
  evaluator := ⟨"nix", [], some "", true, some 18446744073709551615⟩
  naming := ⟨.ofList ["HTTP", "ID"], .empty⟩
  codegen := ⟨"Config", "config", .json, false, none, some "out", false⟩
  logging := .standard

theorem fromFile_saved_quotedConfiguration :
    FileStore.empty.write [] "config.toml" quotedConfiguration.write.toUTF8 =
        .ok (FileStore.empty.put ["config.toml"] quotedConfiguration.write.toUTF8) ∧
      ∃ place, (FileStore.empty.put ["config.toml"] quotedConfiguration.write.toUTF8).resolve []
        "config.toml" = .ok place ∧
        fromFile ((FileStore.empty.put ["config.toml"] quotedConfiguration.write.toUTF8).read? place) =
          .ok quotedConfiguration := by
  have saved : FileStore.empty.write [] "config.toml" quotedConfiguration.write.toUTF8 =
      .ok (FileStore.empty.put ["config.toml"] quotedConfiguration.write.toUTF8) := rfl
  exact ⟨saved, fromFile_saved saved⟩

end OptionSchema.Config
