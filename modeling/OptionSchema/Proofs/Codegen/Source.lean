import OptionSchema.Codegen.Generate
import OptionSchema.Proofs.Outcome

/-!
# The lines of a generated file

A generated file is written line by line, and no line is refused (`writeFile_eq`). A written line that
has a line feed in it takes several lines of the file (`splitOn_textOfLines`). What a file uses from elsewhere stands in its header,
since no line of a declaration starts like a use (`SourceFile.mem_lines_iff`).
-/

namespace OptionSchema.Codegen

def SourceFile.lines (file : SourceFile) : List String :=
  headerLines file.package file.imports ++
    file.declarations.flatMap fun declaration => "" :: declaration.lines

theorem textOfLines_append (first second : List String) :
    textOfLines (first ++ second) = textOfLines first ++ textOfLines second := by
  rw [textOfLines, List.map_append, String.join_append]
  rfl

/-- Writing lines into a text never fails. -/
theorem writeLines_eq (text : String) (lines : List String) :
    writeLines text lines = .ok (text ++ textOfLines lines) := by
  induction lines generalizing text with
  | nil => simp [writeLines, textOfLines, pure, Except.pure]
  | cons line rest ih =>
      have step : writeLines text (line :: rest) = writeLines (text ++ line ++ "\n") rest := rfl
      rw [step, ih]
      simp [textOfLines, String.append_assoc]

theorem foldlM_writeLines (text : String) (declarations : List Declaration) :
    declarations.foldlM (fun text declaration => writeLines text ("" :: declaration.lines)) text =
      .ok (text ++ textOfLines (declarations.flatMap fun declaration => "" :: declaration.lines)) := by
  induction declarations generalizing text with
  | nil => simp [textOfLines, pure, Except.pure]
  | cons declaration rest ih =>
      rw [List.foldlM_cons, writeLines_eq, Outcome.ok_bind, ih, List.flatMap_cons,
        textOfLines_append, String.append_assoc]

/-- The text of a file is written line by line, and no line fails. -/
theorem writeFile_eq (package : String) (imports : Imports) (declarations : List Declaration) :
    writeFile package imports declarations =
      .ok (textOfLines (headerLines package imports ++
        declarations.flatMap fun declaration => "" :: declaration.lines)) := by
  rw [writeFile, writeLines_eq, Outcome.ok_bind, foldlM_writeLines, textOfLines_append,
    String.empty_append]

/-- Finishing a file never fails. -/
theorem Emitter.finish_eq (emitter : Emitter) (package : String) :
    emitter.finish package =
      .ok ⟨package, emitter.imports, emitter.declarations,
        textOfLines (headerLines package emitter.imports ++
          emitter.declarations.flatMap fun declaration => "" :: declaration.lines),
        emitter.dependencies⟩ := by
  rw [finish, writeFile_eq]
  rfl

/-- What line feeds separate in a text: what they separate in each line that is written, and nothing
behind the last one. -/
theorem splitOn_textOfLines (lines : List String) :
    (textOfLines lines).toList.splitOn '\n' =
      (lines.flatMap fun line => line.toList.splitOn '\n') ++ [[]] := by
  induction lines with
  | nil => rfl
  | cons line rest ih =>
      have text : (textOfLines (line :: rest)).toList =
          line.toList ++ '\n' :: (textOfLines rest).toList := by
        simp [textOfLines]
      rw [text, List.splitOn_append_cons_self, ih, List.flatMap_cons, List.append_assoc]

/-! ## Uses -/

/-- A line uses a name from elsewhere. -/
def IsUse (line : String) : Prop :=
  ['u', 's', 'e', ' '] <+: line.toList

theorem isUse_literal (rest : List Char) :
    IsUse (String.ofList ('u' :: 's' :: 'e' :: ' ' :: rest)) := by
  simp [IsUse]

section

variable {c : Char} {rest : List Char} (apart : c ≠ 'u')

include apart

theorem not_isUse_literal : ¬ IsUse (String.ofList (c :: rest)) := by
  simp [IsUse, apart.symm]

theorem not_isUse_append (more : String) : ¬ IsUse (String.ofList (c :: rest) ++ more) := by
  simp [IsUse, apart.symm]

end

theorem not_isUse_empty : ¬ IsUse "" := by
  simp [IsUse]

theorem not_isUse_fieldLines (field : Field) : ∀ line ∈ field.lines, ¬ IsUse line := by
  have comment : ∀ line ∈ (Comment.comment "    " field.description).map String.ofList,
      ¬ IsUse line := by
    have spaces : "    ".toList = [' ', ' ', ' ', ' '] := String.toList_ofList
    simp only [Comment.comment, List.map_map, List.forall_mem_map]
    intro text _
    simp [IsUse, Comment.commentLine, spaces]
  rw [Field.lines, List.forall_mem_append]
  refine ⟨comment, ?_⟩
  simp only [toString, String.append_assoc, List.forall_mem_cons]
  exact ⟨not_isUse_append (by decide) _, not_isUse_append (by decide) _, List.forall_mem_nil _⟩

theorem not_isUse_constantLines (enumeration : String) (constant : Constant) :
    ∀ line ∈ constant.lines enumeration, ¬ IsUse line := by
  simp only [Constant.lines, toString, String.append_assoc, List.forall_mem_cons]
  exact ⟨not_isUse_empty, not_isUse_literal (by decide), not_isUse_append (by decide) _,
    List.forall_mem_nil _⟩

theorem not_isUse_variantLines (variant : Variant) : ∀ line ∈ variant.lines, ¬ IsUse line := by
  simp only [Variant.lines, toString, String.append_assoc, List.forall_mem_cons]
  exact ⟨not_isUse_append (by decide) _, not_isUse_append (by decide) _, List.forall_mem_nil _⟩

theorem not_isUse_conversion (sum : String) (variant : Variant) :
    ∀ line ∈ variant.conversion sum, ¬ IsUse line := by
  simp only [Variant.conversion, toString, String.append_assoc, List.forall_mem_cons]
  exact ⟨not_isUse_empty, not_isUse_append (by decide) _, not_isUse_append (by decide) _,
    not_isUse_append (by decide) _, not_isUse_literal (by decide), not_isUse_literal (by decide),
    List.forall_mem_nil _⟩

theorem not_isUse_attempt (variant : Variant) : ∀ line ∈ variant.attempt, ¬ IsUse line := by
  simp only [Variant.attempt, toString, String.append_assoc, List.forall_mem_cons]
  exact ⟨not_isUse_append (by decide) _, not_isUse_append (by decide) _,
    not_isUse_literal (by decide), List.forall_mem_nil _⟩

theorem not_isUse_sumLines (identifier : String) (path : List String) (variants : List Variant) :
    ∀ line ∈ sumLines identifier path variants, ¬ IsUse line := by
  simp only [sumLines, toString, String.append_assoc, List.forall_mem_append,
    List.forall_mem_flatMap, List.forall_mem_cons]
  refine ⟨⟨⟨⟨⟨⟨?head, fun variant _ => not_isUse_variantLines variant⟩, ?close⟩,
    fun variant _ => not_isUse_conversion identifier variant⟩, ?reader⟩,
    fun variant _ => not_isUse_attempt variant⟩, ?failure⟩
  case head =>
    exact ⟨not_isUse_append (by decide) _, not_isUse_literal (by decide),
      not_isUse_literal (by decide), not_isUse_literal (by decide), not_isUse_literal (by decide),
      not_isUse_append (by decide) _, List.forall_mem_nil _⟩
  case close => exact ⟨not_isUse_literal (by decide), List.forall_mem_nil _⟩
  case reader =>
    exact ⟨not_isUse_empty, not_isUse_append (by decide) _, not_isUse_literal (by decide),
      not_isUse_literal (by decide), not_isUse_literal (by decide), not_isUse_literal (by decide),
      not_isUse_append (by decide) _, List.forall_mem_nil _⟩
  case failure =>
    exact ⟨not_isUse_append (by decide) _, not_isUse_literal (by decide),
      not_isUse_literal (by decide), List.forall_mem_nil _⟩

/-- No line of a declaration uses a name from elsewhere. -/
theorem not_isUse_lines (declaration : Declaration) : ∀ line ∈ declaration.lines, ¬ IsUse line := by
  cases declaration with
  | struct identifier path fields =>
      simp only [Declaration.lines, structLines, toString, String.append_assoc,
        List.forall_mem_append, List.forall_mem_cons]
      refine ⟨⟨not_isUse_append (by decide) _, not_isUse_literal (by decide),
        List.forall_mem_nil _⟩, ?_⟩
      split
      · exact List.forall_mem_singleton.mpr (not_isUse_append (by decide) _)
      · rw [List.forall_mem_append, List.forall_mem_append, List.forall_mem_flatMap,
          List.forall_mem_singleton, List.forall_mem_singleton]
        exact ⟨⟨not_isUse_append (by decide) _, fun field _ => not_isUse_fieldLines field⟩,
          not_isUse_literal (by decide)⟩
  | enumeration identifier path constants =>
      simp only [Declaration.lines, enumerationLines, toString, String.append_assoc,
        List.forall_mem_append, List.forall_mem_flatMap, List.forall_mem_cons]
      exact ⟨⟨not_isUse_append (by decide) _, not_isUse_literal (by decide),
        not_isUse_literal (by decide), not_isUse_append (by decide) _, List.forall_mem_nil _⟩,
        fun constant _ => not_isUse_constantLines identifier constant⟩
  | sum identifier path variants => exact not_isUse_sumLines identifier path variants
  | wrapper identifier around inner =>
      simp only [Declaration.lines, wrapperLines, toString, String.append_assoc,
        List.forall_mem_cons]
      exact ⟨not_isUse_append (by decide) _, not_isUse_literal (by decide),
        not_isUse_literal (by decide), not_isUse_append (by decide) _, List.forall_mem_nil _⟩

/-- What a file uses from elsewhere stands in its header. -/
theorem SourceFile.mem_lines_iff {file : SourceFile} {line : String} (isUse : IsUse line) :
    line ∈ file.lines ↔
      line ∈ file.imports.lines ++ ["use serde::\x7bDeserialize, Serialize\x7d;"] := by
  have inDeclarations : line ∉ file.declarations.flatMap fun declaration =>
      "" :: declaration.lines := by
    intro member
    obtain ⟨declaration, -, member⟩ := List.mem_flatMap.mp member
    rcases List.mem_cons.mp member with rfl | member
    · exact not_isUse_empty isUse
    · exact not_isUse_lines declaration line member isUse
  have inOpening : ∀ line ∈ ["// Code generated by modgen. DO NOT EDIT.",
      s!"// Package `{file.package}`.", ""], ¬ IsUse line := by
    simp only [toString, String.append_assoc, List.forall_mem_cons]
    exact ⟨not_isUse_literal (by decide), not_isUse_append (by decide) _, not_isUse_empty,
      List.forall_mem_nil _⟩
  rw [SourceFile.lines, headerLines, List.mem_append, or_iff_left inDeclarations,
    List.append_assoc, List.mem_append, or_iff_right fun member => inOpening line member isUse]

end OptionSchema.Codegen
