import OptionSchema.Pipeline.Files
import OptionSchema.Proofs.Codegen.Neat
import OptionSchema.Proofs.FileStore
import OptionSchema.Proofs.Text.Words

/-!
# Cleaning source texts

Cleaning takes away the blanks at the ends of lines and the blank lines at the end of a text, and adds
no more than a line feed at its end (`isCleaning_cleaned`). What has been cleaned stays as it is. So
does a text of neat lines, such as a generated file (`writeOutput_generated`).
-/

namespace OptionSchema.Pipeline

open Text (IsSolid isBlank lines trimEnd trimEnd_cons)

variable {line kept text rest out : List Char}

def cleaned (text : List Char) : List Char :=
  (((lines text).map trimEnd).rdropWhile List.isEmpty).flatMap (· ++ ['\n'])

theorem cleanSource_eq (source : String) :
    cleanSource source = String.ofList (cleaned source.toList) :=
  rfl

/-! ## Line by line -/

theorem map_trimEnd_lines_cons {c : Char} {first : List Char} {others : List (List Char)}
    (notFeed : c ≠ '\n') (inside : c = '\r' → text.head? ≠ some '\n')
    (trimmed : (lines text).map trimEnd = trimEnd first :: others) :
    (lines (c :: text)).map trimEnd = trimEnd (c :: first) :: others := by
  obtain ⟨line, more, divided, same, rfl⟩ := List.map_eq_cons_iff.mp trimmed
  rw [Text.lines_cons_of_ne notFeed inside, divided, List.map_cons, trimEnd_cons, same, ← trimEnd_cons]

/-- A line ends before its line feed, with a carriage return or without. -/
theorem map_trimEnd_lines (apart : '\n' ∉ line) (rest : List Char) :
    (lines (line ++ '\n' :: rest)).map trimEnd = trimEnd line :: (lines rest).map trimEnd := by
  induction line with
  | nil => rfl
  | cons c line ih =>
      rw [List.mem_cons, not_or] at apart
      by_cases ends : c = '\r' ∧ line = []
      · obtain ⟨rfl, rfl⟩ := ends
        rfl
      · refine map_trimEnd_lines_cons (Ne.symm apart.1) (fun carriage feed => ?_) (ih apart.2)
        cases line with
        | nil => exact ends ⟨carriage, rfl⟩
        | cons d line =>
            exact apart.2 (List.mem_cons.mpr (.inl (Option.some.inj feed).symm))

theorem map_trimEnd_lastLine (apart : '\n' ∉ line) (filled : line ≠ []) :
    (lines line).map trimEnd = [trimEnd line] := by
  induction line with
  | nil => exact absurd rfl filled
  | cons c line ih =>
      rw [List.mem_cons, not_or] at apart
      cases line with
      | nil =>
          rw [Text.lines_cons_of_ne (Ne.symm apart.1) fun _ => by simp]
          rfl
      | cons d line =>
          refine map_trimEnd_lines_cons (Ne.symm apart.1) (fun _ feed => ?_)
            (ih apart.2 (List.cons_ne_nil d line))
          exact apart.2 (List.mem_cons.mpr (.inl (Option.some.inj feed).symm))

/-- The lines that stay, each with a line feed. -/
def ended (kept : List (List Char)) : List Char :=
  (kept.rdropWhile List.isEmpty).flatMap (· ++ ['\n'])

theorem ended_cons (line : List Char) (rest : List (List Char)) :
    ended (line :: rest) =
      if ended rest = [] ∧ line = [] then [] else line ++ '\n' :: ended rest := by
  rw [ended, Text.rdropWhile_cons, ended]
  cases rest.rdropWhile List.isEmpty with
  | nil => cases line <;> simp
  | cons next more => simp

theorem cleaned_line (apart : '\n' ∉ line) (rest : List Char) :
    cleaned (line ++ '\n' :: rest) =
      if cleaned rest = [] ∧ trimEnd line = [] then [] else trimEnd line ++ '\n' :: cleaned rest := by
  rw [cleaned, map_trimEnd_lines apart]
  exact ended_cons (trimEnd line) ((lines rest).map trimEnd)

theorem cleaned_lastLine (apart : '\n' ∉ line) :
    cleaned line = if trimEnd line = [] then [] else trimEnd line ++ ['\n'] := by
  by_cases filled : line = []
  · subst filled
    rfl
  · rw [cleaned, map_trimEnd_lastLine apart filled]
    exact (ended_cons (trimEnd line) []).trans (by simp [ended])

/-! ## What cleaning does -/

/-- A text and what cleaning makes of it. Blank lines at the end are taken away. Of any other line the
blanks at its end are, and it gets a line feed if it has none. -/
inductive IsCleaning : List Char → List Char → Prop where
  | blank {text : List Char} : (∀ c ∈ text, isBlank c = true) → IsCleaning text []
  | line {kept blanks text out : List Char} : '\n' ∉ blanks → (∀ c ∈ blanks, isBlank c = true) →
      IsSolid kept ∨ kept = [] ∧ out ≠ [] → IsCleaning text out →
        IsCleaning (kept ++ blanks ++ '\n' :: text) (kept ++ '\n' :: out)
  | last {kept blanks : List Char} : '\n' ∉ blanks → (∀ c ∈ blanks, isBlank c = true) →
      IsSolid kept → IsCleaning (kept ++ blanks) (kept ++ ['\n'])

/-- A line is what stays of it with the blanks at its end. -/
theorem exists_blanks (apart : '\n' ∉ line) :
    ∃ blanks, line = trimEnd line ++ blanks ∧ '\n' ∉ blanks ∧ (∀ c ∈ blanks, isBlank c = true) ∧
      (trimEnd line = [] ∨ IsSolid (trimEnd line)) := by
  have whole : trimEnd line ++ line.rtakeWhile isBlank = line := List.rdropWhile_append_rtakeWhile
  have noFeed := apart
  rw [← whole, List.mem_append, not_or] at noFeed
  refine ⟨_, whole.symm, noFeed.2, fun c member => List.mem_rtakeWhile_imp member, ?_⟩
  by_cases empty : trimEnd line = []
  · exact .inl empty
  · exact .inr (Text.isSolid_of_trimEnd empty (List.rdropWhile_idempotent isBlank line) noFeed.1)

theorem trimEnd_eq_nil_iff : trimEnd line = [] ↔ ∀ c ∈ line, isBlank c = true := by
  rw [Text.trimEnd_eq_rdropWhile, List.rdropWhile_eq_nil_iff]

theorem cleaned_eq_nil (empty : cleaned text = []) : ∀ c ∈ text, isBlank c = true := by
  induction text using Text.line_induction with
  | last line apart =>
      rw [cleaned_lastLine apart] at empty
      split at empty
      · next blank => exact trimEnd_eq_nil_iff.mp blank
      · simp at empty
  | next line rest apart ih =>
      rw [cleaned_line apart] at empty
      split at empty
      · next blank =>
          rw [List.forall_mem_append, List.forall_mem_cons]
          exact ⟨trimEnd_eq_nil_iff.mp blank.2, by decide, ih blank.1⟩
      · simp at empty

/-- Cleaning takes away no more than the blanks at the ends of lines and the blank lines at the end,
and adds no more than a line feed at the end; by induction on the lines. -/
theorem isCleaning_cleaned (text : List Char) : IsCleaning text (cleaned text) := by
  induction text using Text.line_induction with
  | last line apart =>
      obtain ⟨blanks, whole, noFeed, blank, visible⟩ := exists_blanks apart
      rw [cleaned_lastLine apart]
      split
      · next empty => exact .blank (trimEnd_eq_nil_iff.mp empty)
      · next filled =>
          have cleaning := IsCleaning.last noFeed blank (visible.resolve_left filled)
          rwa [← whole] at cleaning
  | next line rest apart ih =>
      obtain ⟨blanks, whole, noFeed, blank, visible⟩ := exists_blanks apart
      rw [cleaned_line apart]
      split
      · next empty =>
          refine .blank (List.forall_mem_append.mpr ⟨trimEnd_eq_nil_iff.mp empty.2, ?_⟩)
          exact List.forall_mem_cons.mpr ⟨by decide, cleaned_eq_nil empty.1⟩
      · next filled =>
          have stays : IsSolid (trimEnd line) ∨ trimEnd line = [] ∧ cleaned rest ≠ [] :=
            visible.symm.imp_right fun empty => ⟨empty, fun none => filled ⟨none, empty⟩⟩
          have cleaning := IsCleaning.line noFeed blank stays ih
          rwa [← whole] at cleaning

theorem trimEnd_append_of_blank {blanks : List Char} (blank : ∀ c ∈ blanks, isBlank c = true) :
    trimEnd (kept ++ blanks) = trimEnd kept := by
  rw [trimEnd, List.reverse_append, List.dropWhile_append_of_pos, trimEnd]
  simpa using blank

namespace IsCleaning

/-- A text is cleaned in one way. -/
theorem eq_cleaned (cleaning : IsCleaning text out) : out = cleaned text := by
  induction cleaning with
  | @blank text blank =>
      induction text using Text.line_induction with
      | last line apart =>
          rw [cleaned_lastLine apart, if_pos (trimEnd_eq_nil_iff.mpr blank)]
      | next line rest apart ih =>
          rw [List.forall_mem_append, List.forall_mem_cons] at blank
          rw [cleaned_line apart,
            if_pos ⟨(ih blank.2.2).symm, trimEnd_eq_nil_iff.mpr blank.1⟩]
  | last noFeed blank solid =>
      rw [cleaned_lastLine fun member => (List.mem_append.mp member).elim solid.1 noFeed,
        trimEnd_append_of_blank blank, solid.trimEnd_eq, if_neg solid.ne_nil]
  | @line kept blanks text out noFeed blank visible _ ih =>
      have trimmed : trimEnd kept = kept ∧ '\n' ∉ kept := by
        rcases visible with solid | ⟨rfl, -⟩
        · exact ⟨solid.trimEnd_eq, solid.1⟩
        · exact ⟨rfl, List.not_mem_nil⟩
      rw [cleaned_line fun member => (List.mem_append.mp member).elim trimmed.2 noFeed,
        trimEnd_append_of_blank blank, trimmed.1, ← ih, if_neg]
      rintro ⟨rfl, rfl⟩
      rcases visible with solid | ⟨-, filled⟩
      · exact solid.ne_nil rfl
      · exact filled rfl

/-- What has been cleaned stays as it is. -/
theorem cleaned_eq (cleaning : IsCleaning text out) : cleaned out = out := by
  induction cleaning with
  | blank => rfl
  | last _ _ solid =>
      rw [cleaned_line solid.1, solid.trimEnd_eq, if_neg fun empty => solid.ne_nil empty.2]
      rfl
  | @line kept blanks text out _ _ visible _ ih =>
      have apart : '\n' ∉ kept := by
        rcases visible with solid | ⟨rfl, -⟩
        · exact solid.1
        · exact List.not_mem_nil
      rw [cleaned_line apart, ih]
      rcases visible with solid | ⟨rfl, filled⟩
      · rw [solid.trimEnd_eq, if_neg fun empty => solid.ne_nil empty.2]
      · exact if_neg fun empty => filled empty.1

/-- A cleaned text is empty or ends with one line feed. -/
theorem ends (cleaning : IsCleaning text out) :
    out = [] ∨ ∃ front c, out = front ++ [c, '\n'] ∧ c ≠ '\n' := by
  have solidEnd {kept : List Char} (solid : IsSolid kept) :
      ∃ front c, kept ++ ['\n'] = front ++ [c, '\n'] ∧ c ≠ '\n' := by
    obtain ⟨apart, c, last, -⟩ := solid
    obtain ⟨front, rfl⟩ := List.getLast?_eq_some_iff.mp last
    exact ⟨front, c, by simp, fun same => apart (by simp [same])⟩
  induction cleaning with
  | blank => exact .inl rfl
  | last _ _ solid => exact .inr (solidEnd solid)
  | @line kept blanks text out _ _ visible _ ih =>
      right
      rcases ih with rfl | ⟨front, c, rfl, other⟩
      · exact solidEnd (visible.resolve_right fun empty => empty.2 rfl)
      · exact ⟨kept ++ '\n' :: front, c, by simp, other⟩

end IsCleaning

/-! ## Neat lines -/

theorem cleaned_textOfLines {lines : List String} (neat : Codegen.IsNeat lines) :
    cleaned (Codegen.textOfLines lines).toList = (Codegen.textOfLines lines).toList := by
  have text (line : String) (rest : List String) : (Codegen.textOfLines (line :: rest)).toList =
      line.toList ++ '\n' :: (Codegen.textOfLines rest).toList := by
    simp [Codegen.textOfLines]
  induction neat with
  | nil => rfl
  | @solid line lines solid _ ih =>
      rw [text, cleaned_line solid.1, ih, solid.trimEnd_eq,
        if_neg fun empty => solid.ne_nil empty.2]
  | @blank lines more _ ih =>
      have filled : (Codegen.textOfLines lines).toList ≠ [] := by
        obtain ⟨line, rest, rfl⟩ := List.exists_cons_of_ne_nil more
        rw [text]
        exact List.append_ne_nil_of_right_ne_nil _ (List.cons_ne_nil _ _)
      rw [text, cleaned_line (by decide), ih]
      exact if_neg fun empty => filled empty.1

/-! ## Written files -/

/-- What is written to the file of a generated source is the source itself. -/
theorem read?_writeOutput {file : Codegen.SourceFile}
    (source : file.source = Codegen.textOfLines file.lines) (neat : Codegen.IsNeat file.lines)
    {store store' : FileStore} {directory : List String}
    (written : writeOutput store directory (sourceOutput file) = .ok store') :
    ∃ place, store'.resolve directory (sourceOutput file).fileName = .ok place ∧
      store'.read? place = some file.source.toUTF8 := by
  have clean : cleanSource file.source = file.source := by
    rw [cleanSource_eq, source, cleaned_textOfLines neat, String.ofList_toList]
  obtain ⟨place, found, same⟩ := Outcome.bind_eq_ok.mp written
  obtain ⟨resolved, notDirectory⟩ := FileStore.fileAt_eq_ok found
  cases same
  refine ⟨place, FileStore.resolve_put resolved notDirectory _, ?_⟩
  rw [FileStore.read?_put_self]
  exact congrArg (fun text : String => some text.toUTF8) clean

/-- Cleaning never changes what has been generated: a generated file is written as it is, unless a
member name, a replacement, the root type or the package has a line feed. Of any source text cleaning
takes away the blanks at the ends of lines and the blank lines at the end, and it adds a line feed at
the end if there is none. What has been cleaned stays as it is, and is empty or ends with one line
feed. -/
theorem cleanSource_keeps_generated :
    (∀ options rules module file, Codegen.generate options rules module = .ok file →
      (Node.module module).Everywhere Node.HasPlainMembers → Naming.Rules.KeepsLines rules →
      '\n' ∉ options.rootType.toList → '\n' ∉ options.package.toList →
      ∀ store directory store', writeOutput store directory (sourceOutput file) = .ok store' →
        ∃ place, store'.resolve directory (sourceOutput file).fileName = .ok place ∧
          store'.read? place = some file.source.toUTF8) ∧
    ∀ source : String, cleanSource (cleanSource source) = cleanSource source ∧
      (∀ out, IsCleaning source.toList out ↔ out = (cleanSource source).toList) ∧
      (cleanSource source = "" ∨
        ∃ front c, (cleanSource source).toList = front ++ [c, '\n'] ∧ c ≠ '\n') := by
  constructor
  · intro options rules module file generated members keeps rootType package store directory store'
      written
    exact read?_writeOutput (Codegen.source_of_generate generated)
      (Codegen.isNeat_of_generate generated members keeps rootType package) written
  · intro source
    have cleaning := isCleaning_cleaned source.toList
    rw [cleanSource_eq, cleanSource_eq, String.toList_ofList, cleaning.cleaned_eq]
    refine ⟨rfl, fun out => ⟨IsCleaning.eq_cleaned, fun same => same ▸ cleaning⟩, ?_⟩
    refine cleaning.ends.imp_left fun empty => ?_
    rw [empty]

/-- A module with a description that has blanks at the ends of its lines and blank lines. -/
def endedModule : Module :=
  ⟨[("size", .option { Doc.empty with description := "How many. \r\n```\nx\t\n```\n\n" }
    (.scalar .int))]⟩

def endedFile : Codegen.SourceFile where
  package := "config"
  imports := ⟨false, false⟩
  declarations := [.struct "Config" []
    [⟨"size", "size", "How many. \r\n```\nx\t\n```\n\n", .builtin .i64⟩]]
  source := Codegen.textOfLines
    ["// Code generated by modgen. DO NOT EDIT.", "// Package `config`.", "",
      "use serde::\x7bDeserialize, Serialize\x7d;", "",
      "/// `Config` is the struct type for the root module.",
      "#[derive(Debug, Clone, Serialize, Deserialize)]", "pub struct Config \x7b",
      "    /// How many.", "    /// ```", "    /// x", "    /// ```",
      "    #[serde(rename = \"size\")]", "    pub size: i64,", "\x7d"]
  dependencies := .requireAll [("serde", ["derive"])]

/-- The file for `endedModule` is written as it is. -/
theorem cleanSource_keeps_endedFile :
    ∃ store place, writeOutput .empty ["out"] (sourceOutput endedFile) = .ok store ∧
      store.resolve ["out"] "config.rs" = .ok place ∧
      store.read? place = some endedFile.source.toUTF8 := by
  have generated : Codegen.generate .standard .plain endedModule = .ok endedFile := by
    decide +kernel
  have members : (Node.module endedModule).Everywhere Node.HasPlainMembers := by
    refine Node.everywhere_iff.mpr ⟨by decide, List.forall_mem_singleton.mpr ?_⟩
    exact Node.everywhere_of_children_eq_nil (by decide) rfl
  have found : (FileStore.empty.createDirectories ["out"]).fileAt ["out"]
      (sourceOutput endedFile).fileName = .ok ["out", "config.rs"] := by
    decide +kernel
  have written : writeOutput .empty ["out"] (sourceOutput endedFile) = .ok
      ((FileStore.empty.createDirectories ["out"]).put ["out", "config.rs"]
        (sourceOutput endedFile).contents) := by
    rw [writeOutput, FileStore.write, found]
    rfl
  obtain ⟨place, resolved, read⟩ := cleanSource_keeps_generated.1 _ _ _ _ generated members
    (Naming.Rules.keepsLines_of_plain rfl) (by decide) (by decide) _ _ _ written
  exact ⟨_, place, written, resolved, read⟩

end OptionSchema.Pipeline
