import OptionSchema.Proofs.Codegen.Identifier
import OptionSchema.Proofs.Codegen.Lines
import OptionSchema.Proofs.Codegen.PathComment
import OptionSchema.Proofs.Comment.Written
import OptionSchema.Proofs.Text.Literal

/-!
# Neat lines

A row of lines is neat if no line ends with a blank and the last one is not empty. A declaration is
written in neat lines if no text in it that is written as it is has a line feed, whatever its
descriptions and its quoted texts are (`Declaration.isNeat_lines`). Such are the declarations of a
file unless a member name, a replacement or the name of the root type has a line feed
(`isNeat_of_generate`).
-/

namespace OptionSchema

namespace Text

variable {front line text : List Char}

/-- A line that ends with a character that is no blank. -/
def IsSolid (line : List Char) : Prop :=
  '\n' ∉ line ∧ ∃ c ∈ line.getLast?, isBlank c = false

instance : DecidablePred IsSolid := fun line =>
  decidable_of_iff ('\n' ∉ line ∧ line.getLast?.any (!isBlank ·) = true) <| by
    simp [IsSolid, Option.any_eq_true]

theorem IsSolid.append (noFeed : '\n' ∉ front) (solid : IsSolid line) : IsSolid (front ++ line) := by
  obtain ⟨apart, c, last, visible⟩ := solid
  refine ⟨fun member => (List.mem_append.mp member).elim noFeed apart, c, ?_, visible⟩
  rw [List.getLast?_append, Option.mem_def.mp last]
  rfl

theorem IsSolid.ne_nil (solid : IsSolid line) : line ≠ [] := by
  rintro rfl
  obtain ⟨-, c, last, -⟩ := solid
  cases last

theorem IsSolid.trimEnd_eq (solid : IsSolid line) : trimEnd line = line := by
  obtain ⟨-, c, last, visible⟩ := solid
  obtain ⟨front, rfl⟩ := List.getLast?_eq_some_iff.mp last
  rw [trimEnd_eq_rdropWhile, List.rdropWhile_concat_neg _ _ _ (by simp [visible])]

/-- A trimmed line is solid unless it is empty. -/
theorem isSolid_of_trimEnd (nonempty : line ≠ []) (trimmed : trimEnd line = line)
    (noFeed : '\n' ∉ line) : IsSolid line := by
  rw [trimEnd_eq_rdropWhile, List.rdropWhile_eq_self_iff] at trimmed
  exact ⟨noFeed, line.getLast nonempty, List.getLast?_eq_some_getLast nonempty,
    by simpa using trimmed nonempty⟩

end Text

def Node.HasPlainMembers (node : Node) : Prop :=
  ∀ contents ∈ node.contents?, ∀ member ∈ contents.members, '\n' ∉ member.1.toList

instance : DecidablePred Node.HasPlainMembers := fun node =>
  inferInstanceAs (Decidable (∀ contents ∈ node.contents?, ∀ member ∈ contents.members,
    '\n' ∉ member.1.toList))

namespace Codegen

open Text (IsSolid)

/-- No line ends with a blank, and the last one is not empty. -/
inductive IsNeat : List String → Prop where
  | nil : IsNeat []
  | solid {line : String} {lines : List String} :
      IsSolid line.toList → IsNeat lines → IsNeat (line :: lines)
  | blank {lines : List String} : lines ≠ [] → IsNeat lines → IsNeat ("" :: lines)

variable {front back lines : List String}

theorem IsNeat.append (neat : IsNeat front) (neat' : IsNeat back) : IsNeat (front ++ back) := by
  induction neat with
  | nil => exact neat'
  | solid isSolid _ ih => exact .solid isSolid ih
  | blank more _ ih => exact .blank (by simp [more]) ih

theorem isNeat_of_solid (solid : ∀ line ∈ lines, IsSolid line.toList) : IsNeat lines := by
  induction lines with
  | nil => exact .nil
  | cons line lines ih =>
      rw [List.forall_mem_cons] at solid
      exact .solid solid.1 (ih solid.2)

/-- Items with an empty line in front of each of them. -/
theorem isNeat_flatMap {α : Type} {items : List α} {f : α → List String}
    (neat : ∀ item ∈ items, f item ≠ [] ∧ IsNeat (f item)) :
    IsNeat (items.flatMap fun item => "" :: f item) := by
  induction items with
  | nil => exact .nil
  | cons item items ih =>
      rw [List.forall_mem_cons] at neat
      exact (IsNeat.blank neat.1.1 neat.1.2).append (ih neat.2)

section

variable {chars : List Char} {text line : String}

theorem lineFeed_not_mem_literal (noFeed : '\n' ∉ chars) : '\n' ∉ (String.ofList chars).toList := by
  rw [String.toList_ofList]
  exact noFeed

theorem isSolid_literal (solid : IsSolid chars) : IsSolid (String.ofList chars).toList := by
  rw [String.toList_ofList]
  exact solid

/-- A text without line feeds in front of a solid line. -/
theorem isSolid_text (noFeed : '\n' ∉ text.toList) (solid : IsSolid line.toList) :
    IsSolid (text ++ line).toList := by
  rw [String.toList_append]
  exact solid.append noFeed

theorem isSolid_part (noFeed : '\n' ∉ chars) (solid : IsSolid line.toList) :
    IsSolid (String.ofList chars ++ line).toList :=
  isSolid_text (lineFeed_not_mem_literal noFeed) solid

end

/-! ## Declarations -/

def Declaration.KeepsLines : Declaration → Prop
  | .struct identifier path fields =>
      '\n' ∉ identifier.toList ∧ (∀ member ∈ path, '\n' ∉ member.toList) ∧
        ∀ field ∈ fields, '\n' ∉ field.identifier.toList ∧ '\n' ∉ field.type.text.toList
  | .enumeration identifier path constants =>
      '\n' ∉ identifier.toList ∧ (∀ member ∈ path, '\n' ∉ member.toList) ∧
        ∀ constant ∈ constants, '\n' ∉ constant.identifier.toList
  | .sum identifier path variants =>
      '\n' ∉ identifier.toList ∧ (∀ member ∈ path, '\n' ∉ member.toList) ∧
        ∀ variant ∈ variants, '\n' ∉ variant.name.toList ∧ '\n' ∉ variant.tag.toList ∧
          '\n' ∉ variant.payload.text.toList
  | .wrapper identifier around inner =>
      '\n' ∉ identifier.toList ∧ '\n' ∉ around.toList ∧ '\n' ∉ inner.text.toList

theorem lineFeed_not_mem_between {opening closing : List Char} {text : String}
    (noFeed : '\n' ∉ opening) (inside : '\n' ∉ text.toList) (noFeed' : '\n' ∉ closing) :
    '\n' ∉ (String.ofList opening ++ text ++ String.ofList closing).toList := by
  rw [String.toList_append, String.toList_append, List.mem_append, List.mem_append, not_or, not_or]
  exact ⟨⟨lineFeed_not_mem_literal noFeed, inside⟩, lineFeed_not_mem_literal noFeed'⟩

theorem lineFeed_not_mem_describePath {path : List String}
    (noFeed : ∀ member ∈ path, '\n' ∉ member.toList) : '\n' ∉ (describePath path).toList := by
  rw [describePath]
  split
  · decide
  · exact lineFeed_not_mem_between (by decide) (lineFeed_not_mem_dotted_iff.mpr noFeed) (by decide)

theorem isSolid_commentLine {indent text line : List Char} (noFeed : '\n' ∉ indent)
    (isLine : Comment.IsCommentLine indent text line) : IsSolid line := by
  cases isLine with
  | slashes => exact .append noFeed (by decide)
  | text nonempty trimmed apart =>
      refine (Text.isSolid_of_trimEnd nonempty trimmed apart).append ?_
      exact fun member => (List.mem_append.mp member).elim noFeed (by decide)

/-- The comment on a field is solid, whatever its description is. -/
theorem isSolid_comment (description : String) :
    ∀ line ∈ (Comment.comment "    " description).map String.ofList, IsSolid line.toList := by
  have indent : "    " = Comment.spaces 4 := by decide
  rw [indent, List.forall_mem_map]
  intro line member
  obtain ⟨mark, text, -, isLine⟩ := Comment.isCommentLine_of_mem_comment member
  rw [String.toList_ofList]
  exact isSolid_commentLine (Comment.not_mem_spaces (by decide)) isLine

theorem isSolid_fieldLines {field : Field} (identifier : '\n' ∉ field.identifier.toList)
    (type : '\n' ∉ field.type.text.toList) : ∀ line ∈ field.lines, IsSolid line.toList := by
  simp only [Field.lines, toString, String.append_assoc, List.forall_mem_append,
    List.forall_mem_cons]
  refine ⟨isSolid_comment field.description, ?rename, ?field, List.forall_mem_nil _⟩
  case rename =>
    exact isSolid_part (by decide) (isSolid_text (Text.lineFeed_not_mem_quotedText _)
      (isSolid_literal (by decide)))
  case field =>
    exact isSolid_part (by decide) (isSolid_text identifier (isSolid_part (by decide)
      (isSolid_text type (isSolid_literal (by decide)))))

section

variable {identifier : String} (name : '\n' ∉ identifier.toList)

include name

/-- A line with an identifier in it. -/
theorem isSolid_nameLine {opening closing : List Char} (noFeed : '\n' ∉ opening)
    (solid : IsSolid closing) :
    IsSolid (String.ofList opening ++ (identifier ++ String.ofList closing)).toList :=
  isSolid_part noFeed (isSolid_text name (isSolid_literal solid))

/-- The line of a declaration that says what part of the tree it stands for. -/
theorem isSolid_pathLine {words : List Char} {path : List String}
    (members : ∀ member ∈ path, '\n' ∉ member.toList) (noFeed : '\n' ∉ words) :
    IsSolid ("/// `" ++ (identifier ++ (String.ofList words ++ (describePath path ++ ".")))).toList :=
  isSolid_part (by decide) (isSolid_text name (isSolid_part noFeed
    (isSolid_text (lineFeed_not_mem_describePath members) (isSolid_literal (by decide)))))

end

theorem isNeat_structLines {identifier : String} {path : List String} {fields : List Field}
    (keeps : (Declaration.struct identifier path fields).KeepsLines) :
    IsNeat (structLines identifier path fields) := by
  obtain ⟨name, members, each⟩ := keeps
  refine isNeat_of_solid ?_
  simp only [structLines, toString, String.append_assoc, List.forall_mem_append,
    List.forall_mem_cons]
  refine ⟨⟨isSolid_pathLine name members (by decide), isSolid_literal (by decide),
    List.forall_mem_nil _⟩, ?_⟩
  split
  · exact List.forall_mem_singleton.mpr (isSolid_nameLine name (by decide) (by decide))
  · simp only [List.forall_mem_append, List.forall_mem_flatMap, List.forall_mem_singleton]
    exact ⟨⟨isSolid_nameLine name (by decide) (by decide), fun field member =>
      isSolid_fieldLines (each field member).1 (each field member).2⟩, isSolid_literal (by decide)⟩

theorem isSolid_constantItem {identifier : String} (name : '\n' ∉ identifier.toList)
    {constant : Constant} (noFeed : '\n' ∉ constant.identifier.toList) :
    ∀ line ∈ constantItem identifier constant, IsSolid line.toList := by
  simp only [constantItem_eq, toString, String.append_assoc, List.forall_mem_cons]
  exact ⟨isSolid_literal (by decide), isSolid_part (by decide) (isSolid_text noFeed
    (isSolid_part (by decide) (isSolid_text name (isSolid_part (by decide) (isSolid_text name
      (isSolid_part (by decide) (isSolid_text (Text.lineFeed_not_mem_quotedText _)
        (isSolid_literal (by decide))))))))), List.forall_mem_nil _⟩

theorem isNeat_enumerationLines {identifier : String} {path : List String}
    {constants : List Constant}
    (keeps : (Declaration.enumeration identifier path constants).KeepsLines) :
    IsNeat (enumerationLines identifier path constants) := by
  obtain ⟨name, members, each⟩ := keeps
  refine .append (isNeat_of_solid ?_) (@isNeat_flatMap _ _ (constantItem identifier)
    fun constant member => ⟨List.cons_ne_nil _ _, isNeat_of_solid
      (isSolid_constantItem name (each constant member))⟩)
  simp only [toString, String.append_assoc, List.forall_mem_cons]
  exact ⟨isSolid_pathLine name members (by decide), isSolid_literal (by decide),
    isSolid_literal (by decide), isSolid_nameLine name (by decide) (by decide),
    List.forall_mem_nil _⟩

theorem isNeat_wrapperLines {identifier around : String} {inner : TypeExpr}
    (keeps : (Declaration.wrapper identifier around inner).KeepsLines) :
    IsNeat (wrapperLines identifier around inner) := by
  obtain ⟨name, sum, type⟩ := keeps
  refine isNeat_of_solid ?_
  simp only [wrapperLines, toString, String.append_assoc, List.forall_mem_cons]
  exact ⟨isSolid_part (by decide) (isSolid_text name (isSolid_nameLine sum (by decide) (by decide))),
    isSolid_literal (by decide), isSolid_literal (by decide),
    isSolid_part (by decide) (isSolid_text name (isSolid_nameLine type (by decide) (by decide))),
    List.forall_mem_nil _⟩

section

variable {identifier name tag payload : String} (nameFree : '\n' ∉ name.toList)
  (payloadFree : '\n' ∉ payload.toList)

include nameFree payloadFree

theorem isSolid_variantLines (tagFree : '\n' ∉ tag.toList) :
    ∀ line ∈ variantLines name tag payload, IsSolid line.toList := by
  simp only [variantLines, toString, String.append_assoc, List.forall_mem_cons]
  exact ⟨isSolid_nameLine tagFree (by decide) (by decide), isSolid_part (by decide)
    (isSolid_text nameFree (isSolid_nameLine payloadFree (by decide) (by decide))),
    List.forall_mem_nil _⟩

theorem isSolid_conversionItem (identifierFree : '\n' ∉ identifier.toList) :
    ∀ line ∈ conversionItem identifier name payload, IsSolid line.toList := by
  simp only [conversionItem, toString, String.append_assoc, List.forall_mem_cons]
  exact ⟨isSolid_part (by decide) (isSolid_text payloadFree
      (isSolid_nameLine identifierFree (by decide) (by decide))),
    isSolid_nameLine payloadFree (by decide) (by decide),
    isSolid_nameLine nameFree (by decide) (by decide),
    isSolid_literal (by decide), isSolid_literal (by decide), List.forall_mem_nil _⟩

theorem isSolid_attemptLines : ∀ line ∈ attemptLines name payload, IsSolid line.toList := by
  simp only [attemptLines, toString, String.append_assoc, List.forall_mem_cons]
  exact ⟨isSolid_part (by decide) (isSolid_part (by decide) (isSolid_text payloadFree
      (isSolid_part (by decide) (isSolid_literal (by decide))))),
    isSolid_nameLine nameFree (by decide) (by decide), isSolid_literal (by decide),
    List.forall_mem_nil _⟩

end

theorem isNeat_sumLines {identifier : String} {path : List String} {variants : List Variant}
    (keeps : (Declaration.sum identifier path variants).KeepsLines) :
    IsNeat (sumLines identifier path variants) := by
  obtain ⟨name, members, each⟩ := keeps
  rw [sumLines_eq]
  refine IsNeat.append (isNeat_of_solid ?opening) (isNeat_flatMap ?_)
  case opening =>
    simp only [sumItem, toString, String.append_assoc, List.forall_mem_append,
      List.forall_mem_cons, ← List.flatMap_def, List.forall_mem_flatMap]
    refine ⟨⟨?head, fun variant member => ?variant⟩, isSolid_literal (by decide),
      List.forall_mem_nil _⟩
    case head =>
      exact ⟨isSolid_pathLine name members (by decide), isSolid_literal (by decide),
        isSolid_literal (by decide), isSolid_literal (by decide), isSolid_literal (by decide),
        isSolid_nameLine name (by decide) (by decide), List.forall_mem_nil _⟩
    case variant =>
      obtain ⟨variantName, tag, payload⟩ := each variant member
      exact isSolid_variantLines variantName payload tag
  simp only [List.forall_mem_append, List.forall_mem_map, List.forall_mem_singleton]
  refine ⟨fun variant member => ⟨List.cons_ne_nil _ _, isNeat_of_solid ?conversion⟩,
    List.cons_ne_nil _ _, isNeat_of_solid ?reader⟩
  case conversion =>
    obtain ⟨variantName, -, payload⟩ := each variant member
    exact isSolid_conversionItem variantName payload name
  case reader =>
    simp only [readerItem, toString, String.append_assoc, List.forall_mem_append,
      List.forall_mem_cons, ← List.flatMap_def, List.forall_mem_flatMap]
    refine ⟨⟨?head, fun variant member => ?attempt⟩, ?failure⟩
    case head =>
      exact ⟨isSolid_nameLine name (by decide) (by decide), isSolid_literal (by decide),
        isSolid_literal (by decide), isSolid_literal (by decide), isSolid_literal (by decide),
        isSolid_part (by decide) (isSolid_literal (by decide)), List.forall_mem_nil _⟩
    case attempt =>
      obtain ⟨variantName, -, payload⟩ := each variant member
      exact isSolid_attemptLines variantName payload
    case failure =>
      exact ⟨isSolid_part (by decide) (isSolid_nameLine name (by decide) (by decide)),
        isSolid_literal (by decide), isSolid_literal (by decide), List.forall_mem_nil _⟩

/-- A declaration is written in neat lines. -/
theorem Declaration.isNeat_lines {declaration : Declaration} (keeps : declaration.KeepsLines) :
    IsNeat declaration.lines := by
  cases declaration with
  | struct => exact isNeat_structLines keeps
  | enumeration => exact isNeat_enumerationLines keeps
  | sum => exact isNeat_sumLines keeps
  | wrapper => exact isNeat_wrapperLines keeps

/-! ## Generated declarations -/

open Naming (Rules typeIdentifier)

variable {options : GenerateOptions} {rules : Rules} {module : Module} {file : SourceFile}
  {name : String} {path : List String} {node : Node} {declaration : Declaration}
  {start site next : Site}

theorem lineFeed_not_mem_builtin (builtin : Builtin) : '\n' ∉ builtin.text.toList := by
  cases builtin <;> exact lineFeed_not_mem_literal (by decide)

theorem TypeExpr.text_optional (inner : TypeExpr) :
    (TypeExpr.optional inner).text = "Option<" ++ inner.text ++ ">" :=
  rfl

theorem TypeExpr.text_list (inner : TypeExpr) :
    (TypeExpr.list inner).text = "Vec<" ++ inner.text ++ ">" :=
  rfl

theorem TypeExpr.text_map (inner : TypeExpr) :
    (TypeExpr.map inner).text = "BTreeMap<String, " ++ inner.text ++ ">" :=
  rfl

/-- The text of a type has a line feed only with its name. -/
theorem lineFeed_not_mem_nodeType (noFeed : '\n' ∉ name.toList) (node : Node) :
    '\n' ∉ (nodeType name node).text.toList := by
  have own := Naming.lineFeed_not_mem_typeIdentifier noFeed
  induction node using Node.induction with
  | step node ih =>
      cases node with
      | module => exact own
      | option doc kind =>
          cases kind with
          | scalar kind => exact lineFeed_not_mem_builtin (scalarType kind)
          | unspecified => exact lineFeed_not_mem_builtin .rawJson
          | separatedString => exact lineFeed_not_mem_builtin .string
          | enumeration | submodule => exact own
          | either alternatives =>
              rw [nodeType, kindType]
              split
              · exact lineFeed_not_mem_builtin .jsonNumber
              · exact own
          | wrapped wrapper inner =>
              have within := ih inner (List.mem_singleton.mpr rfl)
              cases wrapper with
              | unique => exact within
              | nullOr =>
                  rw [nodeType, kindType, TypeExpr.text_optional]
                  exact lineFeed_not_mem_between (by decide) within (by decide)
              | listOf =>
                  rw [nodeType, kindType, TypeExpr.text_list]
                  exact lineFeed_not_mem_between (by decide) within (by decide)
              | attrsOf =>
                  rw [nodeType, kindType, TypeExpr.text_map]
                  exact lineFeed_not_mem_between (by decide) within (by decide)

theorem lineFeed_not_mem_alternativeTag (node : Node) : '\n' ∉ (alternativeTag node).toList := by
  have tags : ∀ tag ∈ Tag.all, '\n' ∉ tag.name.toList := by decide +kernel
  exact tags _ (List.mem_of_find?_eq_some (Tag.ofName?_name _))

/-- What is written for the declaration of a site has no line feed from its name, its path or the
names of members. -/
structure Site.KeepsLines (site : Site) : Prop where
  name : '\n' ∉ site.name.toList
  path : ∀ member ∈ site.path, '\n' ∉ member.toList
  members : site.node.Everywhere Node.HasPlainMembers

section

variable (keeps : rules.KeepsLines)

include keeps

theorem Site.KeepsLines.enters (kept : site.KeepsLines) (enters : Enters rules site next) :
    next.KeepsLines := by
  obtain ⟨own, inside⟩ := Node.everywhere_iff.mp kept.members
  refine ⟨lineFeed_not_mem_enteredName keeps enters kept.name, ?_, inside _ enters.mem_children⟩
  cases enters with
  | member holds isMember =>
      rw [List.forall_mem_append, List.forall_mem_singleton]
      exact ⟨kept.path, own _ holds _ isMember⟩
  | wrapped => exact kept.path
  | alternative => exact kept.path

/-- A walk brings in no line feed. -/
theorem Site.KeepsLines.visits (kept : start.KeepsLines) (visits : Visits rules start site) :
    site.KeepsLines := by
  induction visits with
  | refl => exact kept
  | tail _ enters ih => exact ih.enters keeps enters

theorem keepsLines_of_declares (noFeed : '\n' ∉ name.toList)
    (members : ∀ member ∈ path, '\n' ∉ member.toList)
    (declares : Declares rules name path node declaration) : declaration.KeepsLines := by
  have own := Naming.lineFeed_not_mem_typeIdentifier noFeed
  have exported := Rules.lineFeed_not_mem_exported keeps
  induction declares with
  | struct holds =>
      refine ⟨own, members, List.forall_mem_map.mpr fun member _ => ?_⟩
      simp only [memberField]
      exact ⟨Naming.lineFeed_not_mem_fieldIdentifier (exported member.1),
        lineFeed_not_mem_nodeType (exported member.1) member.2⟩
  | enumeration =>
      refine ⟨own, members, List.forall_mem_map.mpr fun value _ => ?_⟩
      rw [valueConstant, String.toList_append, List.mem_append, not_or]
      exact ⟨own, exported value⟩
  | sum =>
      refine ⟨own, members, List.forall_mem_map.mpr fun alternative _ => ?_⟩
      simp only [alternativeVariant, variantName, TypeExpr.text_named]
      exact ⟨Naming.lineFeed_not_mem_typeIdentifier (exported _),
        lineFeed_not_mem_alternativeTag alternative,
        Naming.lineFeed_not_mem_typeIdentifier
          (lineFeed_not_mem_alternativeName keeps own alternative)⟩
  | unique _ ih => exact ih

theorem keepsLines_of_introduces (kept : site.KeepsLines)
    (introduces : Introduces rules site declaration) : declaration.KeepsLines := by
  cases introduces with
  | own declares => exact keepsLines_of_declares keeps kept.name kept.path declares
  | @wrapper name path doc alternatives node =>
      have sum := Naming.lineFeed_not_mem_typeIdentifier kept.name
      exact ⟨Naming.lineFeed_not_mem_typeIdentifier (lineFeed_not_mem_alternativeName keeps sum node),
        sum, lineFeed_not_mem_nodeType (lineFeed_not_mem_innerName keeps sum node) node⟩

end

/-! ## Generated files -/

theorem isNeat_importLines (imports : Imports) {lines : List String} (neat : IsNeat lines)
    (more : lines ≠ []) : IsNeat (imports.lines ++ lines) := by
  obtain ⟨cow, map⟩ := imports
  have useCow : IsSolid "use std::borrow::Cow;".toList := isSolid_literal (by decide)
  have useMap : IsSolid "use std::collections::BTreeMap;".toList := isSolid_literal (by decide)
  cases cow <;> cases map
  · exact neat
  · exact .solid useMap (.blank more neat)
  · exact .solid useCow (.blank more neat)
  · exact .solid useCow (.solid useMap (.blank more neat))

theorem isNeat_headerLines {package : String} (noFeed : '\n' ∉ package.toList) (imports : Imports) :
    IsNeat (headerLines package imports) := by
  have useSerde : IsNeat ["use serde::\x7bDeserialize, Serialize\x7d;"] :=
    .solid (isSolid_literal (by decide)) .nil
  rw [headerLines, List.append_assoc]
  refine .solid (isSolid_literal (by decide)) (.solid ?_ (.blank ?_ ?_))
  · simp only [toString, String.append_assoc]
    exact isSolid_nameLine noFeed (by decide) (by decide)
  · exact List.append_ne_nil_of_right_ne_nil imports.lines (List.cons_ne_nil _ _)
  · exact isNeat_importLines imports useSerde (List.cons_ne_nil _ _)

theorem Declaration.lines_ne_nil (declaration : Declaration) : declaration.lines ≠ [] := by
  cases declaration <;> exact List.cons_ne_nil _ _

/-- A generated file is written in neat lines if no member name, replacement, root type or package
has a line feed. -/
theorem isNeat_of_generate (generated : generate options rules module = .ok file)
    (members : (Node.module module).Everywhere Node.HasPlainMembers) (keeps : rules.KeepsLines)
    (rootType : '\n' ∉ options.rootType.toList) (package : '\n' ∉ options.package.toList) :
    IsNeat file.lines := by
  have root : (Site.root options module).KeepsLines := ⟨rootType, List.forall_mem_nil _, members⟩
  have header : '\n' ∉ file.package.toList := by
    obtain ⟨-, rfl⟩ := generate_eq_ok_iff.mp generated
    exact package
  refine (isNeat_headerLines header file.imports).append
    (isNeat_flatMap fun declaration member => ⟨declaration.lines_ne_nil, ?_⟩)
  rw [declarations_of_generate generated] at member
  obtain ⟨site, visits, introduces⟩ := exists_introduces (.module module) member
  exact Declaration.isNeat_lines
    (keepsLines_of_introduces keeps (root.visits keeps visits) introduces)

end Codegen

end OptionSchema
