import OptionSchema.Pipeline.Run
import OptionSchema.Proofs.Schema.Node
import OptionSchema.Proofs.Schema.Path
import OptionSchema.Proofs.Wire.Reread

/-!
# Selected parts

A run that selects a part of a module gives what a run gives that is started on a document of that
part and selects nothing, if the values in the part can be read. Main statement: `run_select_iff`. It
also says which runs fail because the path leads nowhere, or to an option that holds no module. The
dotted text of names that lead into a module selects that module (`run_select_dotted`).
-/

namespace OptionSchema

open Json (Layout Tree)

/-- A path leads to a member, or else on into the module that the member holds. -/
theorem Module.byPath?_cons_eq_some_iff {module : Module} {name : String} {rest : List String}
    {node : Node} :
    module.byPath? (name :: rest) = some node ↔
      ∃ child, module.get? name = some child ∧
        (rest = [] ∧ child = node ∨
          rest ≠ [] ∧ ∃ inner, child.contents? = some inner ∧ inner.byPath? rest = some node) := by
  cases rest with
  | nil => simp [byPath?_singleton]
  | cons next rest =>
      rw [byPath?_cons (List.cons_ne_nil next rest), Option.bind_assoc]
      simp [Option.bind_eq_some_iff]

namespace Wire

variable {bytes : ByteArray} {module contents : Module} {tree : Tree}

/-! ## Modules within decoded ones -/

theorem isDecodedModule_of_contents? {node : Node} (decoded : node.Everywhere Node.IsDecoded)
    (holds : node.contents? = some contents) : IsDecodedModule contents := by
  obtain ⟨own, inside⟩ := Node.everywhere_iff.mp decoded
  rw [Node.children_of_contents? holds] at inside
  exact ⟨own.ascending contents holds, Module.everywhere_iff.mpr inside⟩

/-- A module that a path leads to within a decoded one is itself as decoding yields it; by induction
on the path. -/
theorem IsDecodedModule.of_byPath? {path : List String} {node : Node}
    (decoded : IsDecodedModule module) (found : module.byPath? path = some node)
    (holds : node.contents? = some contents) : IsDecodedModule contents := by
  induction path generalizing module with
  | nil =>
      cases found
      cases holds
      exact decoded
  | cons name rest ih =>
      obtain ⟨child, isMember, last⟩ := Module.byPath?_cons_eq_some_iff.mp found
      have inside : child.Everywhere Node.IsDecoded :=
        Module.everywhere_iff.mp decoded.inside child (Module.mem_nodes_of_get? isMember)
      rcases last with ⟨-, rfl⟩ | ⟨-, inner, isContents, further⟩
      · exact isDecodedModule_of_contents? inside holds
      · exact ih (isDecodedModule_of_contents? inside isContents) further

/-! ## Line feeds behind documents -/

theorem push_lineFeed (bytes : ByteArray) : bytes.push 10 = bytes ++ "\n".toUTF8 := by
  have lineFeed : "\n".toUTF8.data = #[10] := rfl
  apply ByteArray.ext
  rw [ByteArray.data_push, ByteArray.data_append, lineFeed, Array.push_eq_append]

/-- A line feed behind a document is a blank. -/
theorem ofBytes?_push_lineFeed (scanned : Tree.ofBytes? bytes = .ok tree) :
    Tree.ofBytes? (bytes.push 10) = .ok tree := by
  obtain ⟨text, rfl, wellFormed, before, after, blankBefore, blankAfter, same⟩ :=
    Tree.ofBytes?_eq_ok_iff.mp scanned
  refine Tree.ofBytes?_eq_ok_iff.mpr ⟨text ++ "\n", ?_, wellFormed, before, after ++ ['\n'],
    blankBefore, ?_, ?_⟩
  · rw [push_lineFeed]
    exact String.toByteArray_append.symm
  · rw [List.all_append, blankAfter]
    rfl
  · rw [String.toList_append, same]
    simp

/-- What is written to a file for a document is decoded like the document. -/
theorem decode_endedDocument (scanned : Tree.ofBytes? bytes = .ok tree) :
    decode (Pipeline.endedDocument bytes) = decode bytes := by
  unfold Pipeline.endedDocument
  split
  · rfl
  · rw [decode, decode, ofBytes?_push_lineFeed scanned, scanned]

end Wire

namespace Config

def Configuration.unselected (config : Configuration) : Configuration :=
  { config with codegen := { config.codegen with select? := none } }

end Config

namespace Pipeline

open Config (Configuration)
open Evaluation (EvaluationError Request)

variable {config : Configuration} {module contents : Module} {path : List String}
  {bytes : ByteArray}

/-! ## Selecting -/

theorem select_eq_ok_iff :
    select path module = .ok contents ↔
      ∃ node, module.byPath? path = some node ∧ node.contents? = some contents := by
  cases path with
  | nil => simp [select, Module.byPath?, Node.contents?]
  | cons name rest =>
      rw [select, if_neg (by simp)]
      cases found : module.byPath? (name :: rest) with
      | none => simp
      | some node => cases holds : node.contents? <;> simp [holds]

theorem select_eq_error_iff {error : RunError} :
    select path module = .error error ↔
      (error = .selectNotFound path ∧ module.byPath? path = none) ∨
        (error = .selectNotModule path ∧
          ∃ node, module.byPath? path = some node ∧ node.contents? = none) := by
  cases path with
  | nil => simp [select, Module.byPath?, Node.contents?]
  | cons name rest =>
      rw [select, if_neg (by simp)]
      cases found : module.byPath? (name :: rest) with
      | none => simp [eq_comm]
      | some node => cases holds : node.contents? <;> simp [holds, eq_comm]

/-! ## Producing -/

def documentLayout (config : Configuration) : Layout :=
  if config.codegen.jsonPretty then .indented else .compact

theorem produce_of_json (json : config.codegen.format = .json) (module : Module) :
    produce config module = .ok (.document config.codegen.package
      (Wire.document (Wire.moduleTree (documentLayout config) 0 module)).toUTF8) := by
  simp only [produce, json, documentLayout]
  split <;> rfl

theorem produce_of_rust (rust : config.codegen.format = .rust) (module : Module) :
    produce config module =
      ((Codegen.generate ⟨config.codegen.rootType, config.codegen.package⟩
        (namingRules config.naming) module).mapError .codegen).map sourceOutput := by
  simp only [produce, rust]

/-- Nothing but a failure of the generator keeps a run from producing something of a module. -/
theorem produce_eq_error {error : RunError} (failed : produce config module = .error error) :
    ∃ cause, error = .codegen cause := by
  cases format : config.codegen.format with
  | rust =>
      rw [produce_of_rust format, Outcome.map_eq_error, Outcome.mapError_eq_error] at failed
      obtain ⟨cause, -, same⟩ := failed
      exact ⟨cause, same.symm⟩
  | json =>
      rw [produce_of_json format] at failed
      cases failed

/-- What is produced of a module is a matter of its outline and of its documents. -/
theorem produce_congr {again : Module} (sameOutline : again.outline = module.outline)
    (sameTrees : ∀ layout, Wire.moduleTree layout 0 again = Wire.moduleTree layout 0 module) :
    produce config again = produce config module := by
  cases format : config.codegen.format with
  | rust =>
      rw [produce_of_rust format, produce_of_rust format, ← Codegen.generate_outline _ _ again,
        sameOutline, Codegen.generate_outline]
  | json => rw [produce_of_json format, produce_of_json format, sameTrees]

/-! ## Runs -/

/-- A failure to select a part of a module. -/
def RunError.IsOfSelection : RunError → Prop
  | .selectNotFound _ | .selectNotModule _ => True
  | .evaluation _ | .decode _ | .codegen _ => False

/-- A run fails to select a part exactly if the part cannot be selected of a decoded module. -/
theorem run_eq_error_iff {evaluate : Request → Except EvaluationError ByteArray} {error : RunError}
    (ofSelection : error.IsOfSelection) :
    run config evaluate = .error error ↔
      ∃ bytes module, evaluate (evaluationRequest config) = .ok bytes ∧
        Wire.decode bytes = .ok module ∧ select config.selectPath module = .error error := by
  simp only [run, process, Outcome.bind_eq_error, Outcome.mapError_eq_error, Outcome.mapError_eq_ok]
  constructor
  · rintro (⟨cause, -, rfl⟩ | ⟨bytes, evaluated, failed⟩)
    · cases ofSelection
    · rcases failed with ⟨cause, -, rfl⟩ | ⟨module, decoded, failed | ⟨contents, -, failed⟩⟩
      · cases ofSelection
      · exact ⟨bytes, module, evaluated, decoded, failed⟩
      · obtain ⟨cause, rfl⟩ := produce_eq_error failed
        cases ofSelection
  · rintro ⟨bytes, module, evaluated, decoded, failed⟩
    exact .inr ⟨bytes, evaluated, .inr ⟨module, decoded, .inl failed⟩⟩

theorem run_eq_selectNotFound_iff {evaluate : Request → Except EvaluationError ByteArray} :
    run config evaluate = .error (.selectNotFound path) ↔
      path = config.selectPath ∧ ∃ bytes module,
        evaluate (evaluationRequest config) = .ok bytes ∧ Wire.decode bytes = .ok module ∧
          module.byPath? path = none := by
  simp only [run_eq_error_iff (show (RunError.selectNotFound path).IsOfSelection from trivial),
    select_eq_error_iff, RunError.selectNotFound.injEq, reduceCtorEq, false_and, or_false]
  constructor
  · rintro ⟨bytes, module, evaluated, decoded, rfl, missing⟩
    exact ⟨rfl, bytes, module, evaluated, decoded, missing⟩
  · rintro ⟨rfl, bytes, module, evaluated, decoded, missing⟩
    exact ⟨bytes, module, evaluated, decoded, rfl, missing⟩

theorem run_eq_selectNotModule_iff {evaluate : Request → Except EvaluationError ByteArray} :
    run config evaluate = .error (.selectNotModule path) ↔
      path = config.selectPath ∧ ∃ bytes module node,
        evaluate (evaluationRequest config) = .ok bytes ∧ Wire.decode bytes = .ok module ∧
          module.byPath? path = some node ∧ node.contents? = none := by
  simp only [run_eq_error_iff (show (RunError.selectNotModule path).IsOfSelection from trivial),
    select_eq_error_iff, RunError.selectNotModule.injEq, reduceCtorEq, false_and, false_or]
  constructor
  · rintro ⟨bytes, module, evaluated, decoded, rfl, node, found, holdsNone⟩
    exact ⟨rfl, bytes, module, node, evaluated, decoded, found, holdsNone⟩
  · rintro ⟨rfl, bytes, module, node, evaluated, decoded, found, holdsNone⟩
    exact ⟨bytes, module, evaluated, decoded, rfl, node, found, holdsNone⟩

theorem run_of_evaluated {evaluate : Request → Except EvaluationError ByteArray}
    (evaluated : evaluate (evaluationRequest config) = .ok bytes)
    (decoded : Wire.decode bytes = .ok module)
    (selected : select config.selectPath module = .ok contents) :
    run config evaluate = produce config contents := by
  rw [run, evaluated]
  change process config bytes = produce config contents
  rw [process, decoded]
  change (select config.selectPath module >>= produce config) = produce config contents
  rw [selected]
  rfl

theorem run_of_select (decoded : Wire.decode bytes = .ok module)
    (selected : select config.selectPath module = .ok contents) :
    run config (fun _ => .ok bytes) = produce config contents :=
  run_of_evaluated rfl decoded selected

theorem run_of_undecoded {cause : Wire.DecodeError} (undecoded : Wire.decode bytes = .error cause) :
    run config (fun _ => .ok bytes) = .error (.decode cause) := by
  change process config bytes = .error (.decode cause)
  rw [process, undecoded]
  rfl

/-- A run without a selected part on bytes that are decoded like a document of a decoded module gives
what is produced of the module, exactly if the values in the module can be read. -/
theorem run_unselected_iff (isDecoded : Wire.IsDecodedModule contents)
    (recovers : contents.Everywhere Node.FloatsRecover) {layout : Layout}
    (same : Wire.decode bytes =
      Wire.decode (Wire.document (Wire.moduleTree layout 0 contents)).toUTF8) :
    run config.unselected (fun _ => .ok bytes) = produce config contents ↔
      contents.Everywhere Node.IsReadable := by
  obtain ⟨readable, alike⟩ := Wire.exists_decode_document_iff isDecoded recovers layout
  rw [← same] at readable alike
  rw [← readable]
  cases decoded : Wire.decode bytes with
  | ok again =>
      obtain ⟨sameOutline, sameTrees⟩ := alike again decoded
      refine iff_of_true ?_ ⟨again, rfl⟩
      exact (run_of_select decoded rfl).trans (produce_congr sameOutline sameTrees)
  | error cause =>
      refine iff_of_false (fun equal => ?_) nofun
      rw [run_of_undecoded decoded] at equal
      obtain ⟨cause, differ⟩ := produce_eq_error equal.symm
      cases differ

/-- A run fails to find the selected part exactly if the path leads nowhere in the decoded module,
and finds no module there exactly if the path leads to an option that holds none. If the path leads to
a module or a submodule, the run gives the same as a run that selects nothing gives on a document of
it, exactly if all values in the documentation of options within the vocabulary can be read where they
are written. A run that produces a document and selects nothing gives the same document again on what
it produced, with a line feed at the end or without, exactly under that condition. -/
theorem run_select_iff (config : Configuration) :
    (∀ evaluate path, run config evaluate = .error (.selectNotFound path) ↔
      path = config.selectPath ∧ ∃ bytes module,
        evaluate (evaluationRequest config) = .ok bytes ∧ Wire.decode bytes = .ok module ∧
          module.byPath? path = none) ∧
    (∀ evaluate path, run config evaluate = .error (.selectNotModule path) ↔
      path = config.selectPath ∧ ∃ bytes module node,
        evaluate (evaluationRequest config) = .ok bytes ∧ Wire.decode bytes = .ok module ∧
          module.byPath? path = some node ∧ node.contents? = none) ∧
    ∀ bytes module node contents, Wire.decode bytes = .ok module →
      module.byPath? config.selectPath = some node → node.contents? = some contents →
      (∀ part, contents.Contains part → ∀ value ∈ part.doc.values, value.FloatsRecover) →
      (∀ document ∈ [Wire.encode contents, Wire.encodePretty contents],
        (run config (fun _ => .ok bytes) =
            run config.unselected (fun _ => .ok document.toUTF8) ↔
          ∀ doc kind, contents.Contains (.option doc kind) → kind.tag ≠ .unspecified →
            ∀ value ∈ doc.values, value.Readable)) ∧
      (config.codegen.format = .json → ∃ produced,
        run config (fun _ => .ok bytes) = .ok (.document config.codegen.package produced) ∧
        ∀ again ∈ [produced, endedDocument produced],
          (run config.unselected (fun _ => .ok again) =
              .ok (.document config.codegen.package produced) ↔
            ∀ doc kind, contents.Contains (.option doc kind) → kind.tag ≠ .unspecified →
              ∀ value ∈ doc.values, value.Readable)) := by
  refine ⟨fun _ _ => run_eq_selectNotFound_iff, fun _ _ => run_eq_selectNotModule_iff, ?_⟩
  intro bytes module node contents decoded found holds recovers
  have isDecoded : Wire.IsDecodedModule contents :=
    (Wire.isDecodedModule_of_decode decoded).of_byPath? found holds
  have ran : run config (fun _ => .ok bytes) = produce config contents :=
    run_of_select decoded (select_eq_ok_iff.mpr ⟨node, found, holds⟩)
  rw [← Module.everywhere_isReadable_iff, ran]
  refine ⟨fun document isDocument => ?_, fun json => ?_⟩
  · obtain ⟨layout, rfl⟩ :
        ∃ layout, document = Wire.document (Wire.moduleTree layout 0 contents) := by
      rcases List.mem_cons.mp isDocument with rfl | isPretty
      · exact ⟨.compact, rfl⟩
      · exact ⟨.indented, List.mem_singleton.mp isPretty⟩
    rw [eq_comm]
    exact run_unselected_iff isDecoded recovers rfl
  · have produced := produce_of_json json contents
    refine ⟨_, produced, fun again isAgain => ?_⟩
    rw [← produced]
    have scanned := Wire.ofBytes?_document
      (Wire.wellFormed_moduleTree isDecoded.keepsWellFormed (documentLayout config) 0)
    rcases List.mem_cons.mp isAgain with rfl | isEnded
    · exact run_unselected_iff isDecoded recovers rfl
    · rw [List.mem_singleton.mp isEnded]
      exact run_unselected_iff isDecoded recovers (Wire.decode_endedDocument scanned)

def selectingConfig (path : String) : Configuration :=
  { Configuration.standard with
    codegen := { Config.CodegenSettings.standard with
      format := .json, jsonPretty := false, select? := some path } }

/-- A document of a submodule option. -/
def serviceTree : Tree :=
  Layout.compact.object 0 [("web", Layout.compact.object 1 [("_option", .bool true),
    ("_type", Layout.string "submodule"), ("submodule", Wire.spacedTree)])]

def serviceModule : Module :=
  ⟨[("web", .option .empty (.submodule Wire.spacedModule))]⟩

theorem run_select_serviceTree :
    run (selectingConfig "web") (fun _ => .ok (Wire.document serviceTree).toUTF8) =
        run (selectingConfig "web").unselected
          (fun _ => .ok (Wire.encode Wire.spacedModule).toUTF8) ∧
      ∃ produced, run (selectingConfig "web")
          (fun _ => .ok (Wire.document serviceTree).toUTF8) = .ok (.document "config" produced) ∧
        run (selectingConfig "web").unselected (fun _ => .ok (endedDocument produced)) =
          .ok (.document "config" produced) := by
  have decoded : Wire.decode (Wire.document serviceTree).toUTF8 = .ok serviceModule := by
    rw [Wire.decode, Wire.ofBytes?_document (by rfl)]
    rfl
  have found : serviceModule.byPath? (selectingConfig "web").selectPath =
      some (.option .empty (.submodule Wire.spacedModule)) := by rfl
  have values : Wire.spacedModule.Everywhere fun part => ∀ value ∈ part.doc.values,
      value.FloatsRecover ∧ value.Readable := by
    refine Module.everywhere_singleton (fun value isValue => ?_) rfl
    rw [List.mem_singleton.mp isValue]
    exact ⟨Json.Value.floatsRecover_bool true, Json.Value.everywhere_of_parts_eq_nil id rfl,
      by decide⟩
  have readable : ∀ doc kind, Wire.spacedModule.Contains (.option doc kind) →
      kind.tag ≠ .unspecified → ∀ value ∈ doc.values, value.Readable :=
    fun doc kind contained _ value isValue => (values _ contained value isValue).2
  obtain ⟨onDocument, onOutput⟩ := (run_select_iff (selectingConfig "web")).2.2
    _ _ _ _ decoded found rfl fun part contained value isValue =>
      (values part contained value isValue).1
  obtain ⟨produced, ran, again⟩ := onOutput rfl
  exact ⟨(onDocument _ (List.mem_cons_self ..)).mpr readable, produced, ran,
    (again _ (List.mem_cons_of_mem _ (List.mem_cons_self ..))).mpr readable⟩

/-- A document of a bare module whose only member has a default that looks like an embedded text once
its members are in order. -/
def latentTree : Tree :=
  Layout.compact.object 0 [("s", Layout.compact.object 1 [("a", Layout.compact.object 2
    [("_option", .bool true), ("_type", Layout.string "str"),
      ("default", Layout.compact.object 3 [("z", .number ⟨false, ['1'], [], none⟩),
        (Json.embeddingMark, Layout.string "1")])])])]

/-- The document that is produced of such a part cannot be decoded. -/
theorem run_select_latentTree :
    Wire.decode (Wire.document latentTree).toUTF8 = .ok ⟨[("s", .module Wire.markedModule)]⟩ ∧
      (Module.mk [("s", .module Wire.markedModule)]).byPath? (selectingConfig "s").selectPath =
        some (.module Wire.markedModule) ∧
      (∀ part, Wire.markedModule.Contains part → ∀ value ∈ part.doc.values,
        value.FloatsRecover) ∧
      run (selectingConfig "s") (fun _ => .ok (Wire.document latentTree).toUTF8) =
        .ok (.document "config" (Wire.encode Wire.markedModule).toUTF8) ∧
      run (selectingConfig "s").unselected
          (fun _ => .ok (Wire.encode Wire.markedModule).toUTF8) =
        .error (.decode (.shape ["a"] (.malformed .trailingComma))) := by
  have decoded : Wire.decode (Wire.document latentTree).toUTF8 =
      .ok ⟨[("s", .module Wire.markedModule)]⟩ := by
    rw [Wire.decode, Wire.ofBytes?_document (by rfl)]
    rfl
  have kept : Wire.markedModule.Everywhere Wire.KeepsWellFormed :=
    Module.everywhere_singleton (fun _ _ same => by cases same) rfl
  have undecoded : Wire.decode (Wire.encode Wire.markedModule).toUTF8 =
      .error (.shape ["a"] (.malformed .trailingComma)) := by
    rw [Wire.decode, Wire.encode,
      Wire.ofBytes?_document (Wire.wellFormed_moduleTree kept .compact 0)]
    rfl
  refine ⟨decoded, by rfl, ?_, run_of_select decoded (by rfl), run_of_undecoded undecoded⟩
  refine Module.everywhere_singleton (fun value isValue => ?_) rfl
  rw [List.mem_singleton.mp isValue]
  exact Wire.floatsRecover_markedValue

/-! ## Dotted paths -/

theorem splitDotted_eq (text? : Option String) :
    Config.splitDotted text? = Path.parse (text?.getD "") := by
  cases text? <;> rfl

/-- In a decoded module no name is that of two members, so what names lead into is found by them. -/
theorem select_of_leadsInto (decoded : Wire.IsDecodedModule module)
    (leads : module.LeadsInto path contents) : select path module = .ok contents := by
  rw [select_eq_ok_iff]
  have goesOn {module inner contents : Module} {name : String} {path : List String} {child : Node}
      (decoded : Wire.IsDecodedModule module) (isMember : (name, child) ∈ module.members)
      (holds : child.contents? = some inner)
      (ih : Wire.IsDecodedModule inner →
        ∃ node, inner.byPath? path = some node ∧ node.contents? = some contents) :
      ∃ node, module.byPath? (name :: path) = some node ∧ node.contents? = some contents := by
    have found : module.get? name = some child := decoded.ascending.get?_of_mem isMember
    have inside : child.Everywhere Node.IsDecoded :=
      Module.everywhere_iff.mp decoded.inside child (Module.mem_nodes_of_get? found)
    obtain ⟨node, further, isContents⟩ := ih (Wire.isDecodedModule_of_contents? inside holds)
    cases path with
    | nil =>
        cases further
        cases isContents
        exact ⟨child, Module.byPath?_cons_eq_some_iff.mpr ⟨child, found, .inl ⟨rfl, rfl⟩⟩, holds⟩
    | cons next path =>
        exact ⟨node, Module.byPath?_cons_eq_some_iff.mpr
          ⟨child, found, .inr ⟨List.cons_ne_nil _ _, inner, holds, further⟩⟩, isContents⟩
  induction leads with
  | @here module => exact ⟨.module module, rfl, rfl⟩
  | module isMember _ ih => exact goesOn decoded isMember rfl ih
  | submodule isMember _ ih => exact goesOn decoded isMember rfl ih

/-- A text is its names with dots between them. A path is told from its dotted text exactly if no name
has a dot and it is not the one empty name. The paths of a configuration are told from its texts in
this way, an absent text like the empty one. So if such names lead into a module of what is decoded,
their dotted text selects that module. -/
theorem run_select_dotted (config : Configuration) :
    (∀ text, Path.dotted (Path.parse text) = text) ∧
    (∀ path, Path.parse (Path.dotted path) = path ↔
      (∀ name ∈ path, '.' ∉ name.toList) ∧ path ≠ [""]) ∧
    config.selectPath = Path.parse (config.codegen.select?.getD "") ∧
    config.optionsPath = Path.parse (config.module.optionsPath?.getD "") ∧
    ∀ evaluate bytes module path contents,
      evaluate (evaluationRequest config) = .ok bytes → Wire.decode bytes = .ok module →
      module.LeadsInto path contents → (∀ name ∈ path, '.' ∉ name.toList) → path ≠ [""] →
      config.codegen.select? = some (Path.dotted path) →
      select config.selectPath module = .ok contents ∧
        run config evaluate = produce config contents := by
  refine ⟨Path.dotted_parse, fun path => Path.parse_dotted_iff, splitDotted_eq _,
    splitDotted_eq _, ?_⟩
  intro evaluate bytes module path contents evaluated decoded leads noDot apart isSelected
  have samePath : config.selectPath = path := by
    rw [Configuration.selectPath, isSelected, splitDotted_eq]
    exact Path.parse_dotted_iff.mpr ⟨noDot, apart⟩
  have selected : select config.selectPath module = .ok contents := by
    rw [samePath]
    exact select_of_leadsInto (Wire.isDecodedModule_of_decode decoded) leads
  exact ⟨selected, run_of_evaluated evaluated decoded selected⟩

/-- A document of a module behind an empty name. -/
def namelessTree : Tree :=
  Layout.compact.object 0 [("", serviceTree)]

theorem run_select_namelessTree :
    Wire.decode (Wire.document namelessTree).toUTF8 = .ok ⟨[("", .module serviceModule)]⟩ ∧
      (Module.mk [("", .module serviceModule)]).LeadsInto ["", "web"] Wire.spacedModule ∧
      Path.parse ".web" = ["", "web"] ∧
      run (selectingConfig ".web") (fun _ => .ok (Wire.document namelessTree).toUTF8) =
        .ok (.document "config" (Wire.encode Wire.spacedModule).toUTF8) := by
  have decoded : Wire.decode (Wire.document namelessTree).toUTF8 =
      .ok ⟨[("", .module serviceModule)]⟩ := by
    rw [Wire.decode, Wire.ofBytes?_document (by rfl)]
    rfl
  have leads : (Module.mk [("", .module serviceModule)]).LeadsInto ["", "web"] Wire.spacedModule :=
    .module (List.mem_cons_self ..) (.submodule (List.mem_cons_self ..) .here)
  have noDot : ∀ name ∈ ["", "web"], '.' ∉ name.toList := by decide
  have apart : ["", "web"] ≠ [""] := by decide
  obtain ⟨-, splits, -, -, selects⟩ := run_select_dotted (selectingConfig ".web")
  exact ⟨decoded, leads, (splits ["", "web"]).mpr ⟨noDot, apart⟩,
    (selects _ _ _ _ _ rfl decoded leads noDot apart rfl).2⟩

end Pipeline

end OptionSchema
