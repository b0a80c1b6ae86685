import OptionSchema.Proofs.Dictionary
import OptionSchema.Proofs.Text.Piece
import OptionSchema.Schema.Path

/-!
# Paths put one behind the other

Following a path and then another one is following both as one path, if the first leads to something
that holds a module. Main statement: `byPath?_composes`. It also says which paths lead anywhere:
those of which every name is that of a member of the module that the names before it lead into.

A dotted text is the names of its path with dots between them (`dotted_parse`), but a path can only be
told from its dotted text if no name has a dot and it is not the one empty name (`parse_dotted_iff`).
-/

namespace OptionSchema

/-! ## Dotted texts -/

namespace Path

theorem toList_dotted (path : List String) :
    (dotted path).toList = ['.'].intercalate (path.map String.toList) :=
  String.toList_intercalate

theorem parse_eq {text : String} (nonempty : text ≠ "") :
    parse text = (Text.cut (· == '.') text.toList).map String.ofList := by
  rw [parse, if_neg (by simpa using nonempty)]

/-- The empty text is that of two paths: the empty one and the one empty name. -/
theorem dotted_eq_empty_iff {path : List String} : dotted path = "" ↔ path = [] ∨ path = [""] := by
  constructor
  · intro nothing
    match path with
    | [] => exact .inl rfl
    | [name] => exact .inr (congrArg (fun name => [name]) nothing)
    | first :: second :: rest =>
        have dots := toList_dotted (first :: second :: rest)
        rw [nothing, List.map_cons, List.map_cons, List.intercalate_cons_cons] at dots
        simp at dots
  · rintro (rfl | rfl) <;> rfl

/-- Joining the names of a dotted text gives the text. -/
theorem dotted_parse (text : String) : dotted (parse text) = text := by
  by_cases nothing : text = ""
  · subst nothing
    rfl
  · rw [← String.toList_inj, toList_dotted, parse_eq nothing, List.map_map,
      Text.cut_eq_splitOnP, ← List.splitOn_eq_splitOnP]
    simp [Function.comp_def]

/-- A path is told from its dotted text exactly if no name has a dot and it is not the one empty
name. -/
theorem parse_dotted_iff {path : List String} :
    parse (dotted path) = path ↔ (∀ name ∈ path, '.' ∉ name.toList) ∧ path ≠ [""] := by
  by_cases nothing : dotted path = ""
  · rw [nothing]
    rcases dotted_eq_empty_iff.mp nothing with rfl | rfl
    · exact iff_of_true rfl ⟨List.forall_mem_nil _, (List.cons_ne_nil _ _).symm⟩
    · exact iff_of_false (List.cons_ne_nil _ _).symm fun apart => apart.2 rfl
  · have ⟨some', apart⟩ := not_or.mp (mt dotted_eq_empty_iff.mpr nothing)
    rw [parse_eq nothing, and_iff_left apart]
    constructor
    · intro same name isName
      rw [← same, List.mem_map] at isName
      obtain ⟨piece, isPiece, rfl⟩ := isName
      rw [String.toList_ofList]
      exact fun dot => absurd (Text.forall_mem_cut _ _ piece isPiece '.' dot) (by decide)
    · intro noDot
      rw [toList_dotted, Text.cut_eq_splitOnP, ← List.splitOn_eq_splitOnP,
        List.splitOn_intercalate '.' (List.forall_mem_map.mpr noDot) (by simpa using some'),
        List.map_map]
      simp [Function.comp_def]

end Path

/-! ## Paths in two parts -/

/-- A node holds a module if it is that module or a submodule option. -/
theorem Node.contents?_eq_some_iff {node : Node} {contents : Module} :
    node.contents? = some contents ↔
      node = .module contents ∨ ∃ doc, node = .option doc (.submodule contents) := by
  constructor
  · intro holds
    unfold contents? at holds
    split at holds
    · cases holds
      exact .inl rfl
    · cases holds
      exact .inr ⟨_, rfl⟩
    · cases holds
  · rintro (rfl | ⟨doc, rfl⟩) <;> rfl

/-- A node holds no module if it is an option, but not a submodule. -/
theorem Node.contents?_eq_none_iff {node : Node} :
    node.contents? = none ↔
      ∃ doc kind, node = .option doc kind ∧ ∀ contents, kind ≠ .submodule contents := by
  rw [Option.eq_none_iff_forall_ne_some]
  simp only [ne_eq, contents?_eq_some_iff, not_or, not_exists]
  constructor
  · intro apart
    cases node with
    | module contents => exact absurd rfl (apart contents).1
    | option doc kind =>
        refine ⟨doc, kind, rfl, ?_⟩
        rintro contents rfl
        exact (apart contents).2 doc rfl
  · rintro ⟨doc, kind, rfl, apart⟩ contents
    refine ⟨nofun, ?_⟩
    rintro doc' ⟨⟩
    exact apart contents rfl

namespace Module

variable {module : Module} {name : String} {path first second : List String}

/-- The names of members lead from a module into another one, one module or submodule at a time. -/
inductive LeadsInto : Module → List String → Module → Prop where
  | here {module : Module} : LeadsInto module [] module
  | module {module inner contents : Module} {name : String} {path : List String}
      (member : (name, .module inner) ∈ module.members) (further : LeadsInto inner path contents) :
      LeadsInto module (name :: path) contents
  | submodule {module inner contents : Module} {name : String} {path : List String} {doc : Doc}
      (member : (name, .option doc (.submodule inner)) ∈ module.members)
      (further : LeadsInto inner path contents) : LeadsInto module (name :: path) contents

/-- The module that a path leads into: the one that is held by what the path leads to. -/
def contentsByPath? (path : List String) (module : Module) : Option Module :=
  (module.byPath? path).bind Node.contents?

theorem byPath?_singleton : module.byPath? [name] = module.get? name := by
  rw [byPath?]
  cases module.get? name <;> rfl

/-- A path of several names goes on in the module that its first member holds. -/
theorem byPath?_cons (more : path ≠ []) :
    module.byPath? (name :: path) =
      ((module.get? name).bind Node.contents?).bind (byPath? path) := by
  have notEmpty : path.isEmpty = false := List.isEmpty_eq_false_iff.mpr more
  rw [byPath?]
  cases module.get? name with
  | none => rfl
  | some node =>
      simp only [notEmpty, Bool.false_eq_true, if_false, Option.bind_some]
      cases node.contents? <;> rfl

/-- The last name of a path is treated unlike those before it, so the second of two paths must not be
empty. -/
theorem byPath?_append (more : second ≠ []) :
    module.byPath? (first ++ second) = (module.contentsByPath? first).bind (byPath? second) := by
  induction first generalizing module with
  | nil => rfl
  | cons name rest ih =>
      rw [List.cons_append, byPath?_cons (List.append_ne_nil_of_right_ne_nil rest more)]
      cases rest with
      | nil => rw [List.nil_append, contentsByPath?, byPath?_singleton]
      | cons next rest =>
          rw [contentsByPath?, byPath?_cons (List.cons_ne_nil next rest)]
          cases (module.get? name).bind Node.contents? with
          | none => rfl
          | some contents => exact ih

/-- A path leads somewhere exactly if each of its names is that of a member of the module that the
names before it lead into. -/
theorem exists_byPath?_iff :
    (∃ node, module.byPath? path = some node) ↔
      ∀ before name after, path = before ++ name :: after →
        ∃ contents, module.contentsByPath? before = some contents ∧ name ∈ contents.names := by
  constructor
  · rintro ⟨node, found⟩ before name after rfl
    rw [byPath?_append (List.cons_ne_nil name after)] at found
    obtain ⟨contents, isContents, further⟩ := Option.bind_eq_some_iff.mp found
    refine ⟨contents, isContents, ?_⟩
    by_contra missing
    have noMember : contents.get? name = none := Dictionary.get?_eq_none_iff.mpr missing
    rw [byPath?, noMember] at further
    cases further
  · intro each
    rcases List.eq_nil_or_concat path with rfl | ⟨before, name, rfl⟩
    · exact ⟨.module module, rfl⟩
    · rw [List.concat_eq_append] at each ⊢
      obtain ⟨contents, isContents, isName⟩ := each before name [] rfl
      obtain ⟨node, isMember⟩ := Option.ne_none_iff_exists'.mp fun missing =>
        Dictionary.get?_eq_none_iff.mp missing isName
      refine ⟨node, ?_⟩
      rw [byPath?_append (List.cons_ne_nil name []), isContents, Option.bind_some,
        byPath?_singleton]
      exact isMember

/-- A path of two parts leads to where the second part leads from the module that is held by what the
first part leads to. If the first part leads nowhere or to an option that is not a submodule, the
whole path leads nowhere. So a path leads somewhere exactly if all names before each of its names
lead to a module or submodule with a member of that name. -/
theorem byPath?_composes (module : Module) (first second : List String) (more : second ≠ []) :
    (∀ node contents, module.byPath? first = some node → node.contents? = some contents →
      module.byPath? (first ++ second) = contents.byPath? second) ∧
    (module.byPath? first = none → module.byPath? (first ++ second) = none) ∧
    (∀ doc kind, module.byPath? first = some (.option doc kind) →
      (∀ contents, kind ≠ .submodule contents) → module.byPath? (first ++ second) = none) ∧
    ∀ path : List String, (∃ node, module.byPath? path = some node) ↔
      ∀ before name after, path = before ++ name :: after →
        ∃ node contents, module.byPath? before = some node ∧
          (node = .module contents ∨ ∃ doc, node = .option doc (.submodule contents)) ∧
          name ∈ contents.names := by
  refine ⟨fun node contents found holds => ?_, fun missing => ?_, fun doc kind found apart => ?_,
    fun path => ?_⟩
  · rw [byPath?_append more, contentsByPath?, found, Option.bind_some, holds, Option.bind_some]
  · rw [byPath?_append more, contentsByPath?, missing]
    rfl
  · have holdsNone : (Node.option doc kind).contents? = none :=
      Node.contents?_eq_none_iff.mpr ⟨doc, kind, rfl, apart⟩
    rw [byPath?_append more, contentsByPath?, found, Option.bind_some, holdsNone]
    rfl
  · rw [exists_byPath?_iff]
    simp only [contentsByPath?, Option.bind_eq_some_iff, ← Node.contents?_eq_some_iff]
    refine forall₄_congr fun before name after _ => ?_
    constructor
    · rintro ⟨contents, ⟨node, found, holds⟩, isName⟩
      exact ⟨node, contents, found, holds, isName⟩
    · rintro ⟨node, contents, found, holds, isName⟩
      exact ⟨contents, ⟨node, found, holds⟩, isName⟩

/-- A module with a list of submodules, which no path leads into, and a submodule within a module. -/
def nestedModule : Module :=
  ⟨[("all", .option .empty (.wrapped .listOf
      (.option .empty (.submodule ⟨[("port", .option .empty (.scalar .int))]⟩)))),
    ("net", .module ⟨[("web", .option .empty
      (.submodule ⟨[("port", .option .empty (.scalar .int))]⟩))]⟩)]⟩

theorem byPath?_nestedModule :
    ["port"] ≠ [] ∧
      nestedModule.byPath? ["net", "web"] =
        some (.option .empty (.submodule ⟨[("port", .option .empty (.scalar .int))]⟩)) ∧
      nestedModule.byPath? (["net", "web"] ++ ["port"]) =
        some (.option .empty (.scalar .int)) ∧
      nestedModule.byPath? (["all"] ++ ["port"]) = none ∧
      nestedModule.byPath? (["gone"] ++ ["port"]) = none := by
  have more : ["port"] ≠ [] := List.cons_ne_nil _ _
  obtain ⟨intoWeb, -, -, -⟩ := byPath?_composes nestedModule ["net", "web"] ["port"] more
  obtain ⟨-, -, intoAll, -⟩ := byPath?_composes nestedModule ["all"] ["port"] more
  obtain ⟨-, intoGone, -, -⟩ := byPath?_composes nestedModule ["gone"] ["port"] more
  exact ⟨more, rfl, intoWeb _ _ rfl rfl, intoAll _ _ rfl nofun, intoGone rfl⟩

end Module

end OptionSchema
