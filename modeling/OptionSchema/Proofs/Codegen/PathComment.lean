import OptionSchema.Proofs.Codegen.Source
import OptionSchema.Proofs.Codegen.SumType
import OptionSchema.Proofs.Naming.Exported
import OptionSchema.Proofs.Text.Words

/-!
# Comments with paths

A type that stands for a part of the option tree has a comment in front of it with the path of that
part. The names on the path are written as they are: the comment stays on one line exactly if none of
them has a line feed (`generate_pathComments`), and otherwise what follows a line feed is read as
code (`generate_twoLines_leaves_comment`).
-/

namespace OptionSchema.Codegen

open Naming (Rules lineFeed_not_mem_typeIdentifier typeIdentifier)
open Text (exists_mem_splitOn_isPrefix exists_of_mem_splitOn isPrefix_of_isPrefix_append
  splitOn_eq_singleton_iff)

/-! ## The lines of a text -/

/-- Behind every line feed a text goes on with a mark. -/
def ContinuesWith (mark text : List Char) : Prop :=
  ∀ before after, text = before ++ '\n' :: after → mark <+: after

section

variable {mark text : List Char}

/-- All lines of a text start with a mark exactly if the text does and goes on with the mark. -/
theorem forall_mem_splitOn_iff (apart : '\n' ∉ mark) :
    (∀ line ∈ text.splitOn '\n', mark <+: line) ↔ mark <+: text ∧ ContinuesWith mark text := by
  constructor
  · intro all
    refine ⟨?_, ?_⟩
    · obtain ⟨line, isLine, start⟩ := exists_mem_splitOn_isPrefix text
      exact (all line isLine).trans start
    · rintro before after rfl
      obtain ⟨line, isLine, start⟩ := exists_mem_splitOn_isPrefix after
      rw [List.splitOn_append_cons_self] at all
      exact (all line (List.mem_append_right _ isLine)).trans start
  · rintro ⟨start, continues⟩ line isLine
    obtain ⟨rest, stops, rfl | ⟨before, rfl⟩⟩ := exists_of_mem_splitOn isLine
    · exact (isPrefix_of_isPrefix_append apart stops).mp start
    · exact (isPrefix_of_isPrefix_append apart stops).mp (continues _ _ rfl)

theorem continuesWith_of_not_mem (noFeed : '\n' ∉ text) : ContinuesWith mark text := by
  rintro before after rfl
  exact absurd List.mem_append_cons_self noFeed

theorem continuesWith_cons {c : Char} :
    ContinuesWith mark (c :: text) ↔ (c = '\n' → mark <+: text) ∧ ContinuesWith mark text := by
  constructor
  · refine fun continues => ⟨?_, ?_⟩
    · rintro rfl
      exact continues [] text rfl
    · rintro before after rfl
      exact continues (c :: before) after rfl
  · rintro ⟨first, others⟩ before after same
    cases before with
    | nil =>
        obtain ⟨rfl, rfl⟩ := List.cons.inj same
        exact first rfl
    | cons d before =>
        obtain ⟨rfl, rfl⟩ := List.cons.inj same
        exact others before after rfl

/-- What stands around a text does not matter if it has no line feed and ends the mark. -/
theorem continuesWith_append_iff {front back : List Char} {c : Char} (apart : c ∉ mark)
    (noFeed : '\n' ∉ front) (noFeed' : '\n' ∉ c :: back) :
    ContinuesWith mark (front ++ (text ++ c :: back)) ↔ ContinuesWith mark text := by
  have inFront (text : List Char) :
      ContinuesWith mark (front ++ text) ↔ ContinuesWith mark text := by
    induction front with
    | nil => rfl
    | cons d front ih =>
        rw [List.mem_cons, not_or] at noFeed
        rw [List.cons_append, continuesWith_cons, ih noFeed.2]
        exact and_iff_right fun same => absurd same.symm noFeed.1
  rw [inFront]
  induction text with
  | nil => exact iff_of_true (continuesWith_of_not_mem noFeed') (continuesWith_of_not_mem nofun)
  | cons d text ih =>
      rw [List.cons_append, continuesWith_cons, continuesWith_cons]
      exact and_congr
        (imp_congr_right fun _ => isPrefix_of_isPrefix_append apart (.inr ⟨back, rfl⟩)) ih

end

/-! ## The comment of a type -/

def pathComment (identifier words : String) (path : List String) : String :=
  "/// `" ++ identifier ++ words ++ describePath path ++ "."

def Declaration.pathComment? : Declaration → Option String
  | .struct identifier path _ => some (pathComment identifier "` is the struct type for " path)
  | .enumeration identifier path _ =>
      some (pathComment identifier "` is the enum type for " path)
  | .sum identifier path _ =>
      some (pathComment identifier "` describes the `either` type for " path)
  | .wrapper _ _ _ => none

/-- The comment with the path is the first line of a declaration. -/
theorem head?_lines {declaration : Declaration} {comment : String}
    (isComment : declaration.pathComment? = some comment) :
    declaration.lines.head? = some comment := by
  rw [← isComment]
  cases declaration with
  | struct | enumeration | sum => rfl
  | wrapper => cases isComment

variable {options : GenerateOptions} {rules : Rules} {module : Module} {file : SourceFile}
  {name : String} {path : List String} {node : Node} {declaration : Declaration} {site : Site}

/-- A declaration that is not a wrapper is that of a site, whose path is in the comment. -/
theorem pathComment?_of_declares (declares : Declares rules name path node declaration) :
    ∃ words, declaration.pathComment? = some (pathComment (typeIdentifier name) words path) ∧
      '\n' ∉ words.toList := by
  induction declares with
  | struct => exact ⟨_, rfl, by decide⟩
  | enumeration => exact ⟨_, rfl, by decide⟩
  | sum => exact ⟨_, rfl, by decide⟩
  | unique _ ih => exact ih

theorem lineFeed_not_mem_dotted_iff :
    '\n' ∉ (Path.dotted path).toList ↔ ∀ member ∈ path, '\n' ∉ member.toList :=
  Text.not_mem_intercalate_iff (by decide)

/-- No line feed gets into the name of an alternative but by an override. -/
theorem lineFeed_not_mem_alternativeName (keeps : rules.KeepsLines) {sum : String}
    (noFeed : '\n' ∉ sum.toList) (alternative : Node) :
    '\n' ∉ (alternativeName rules sum alternative).toList := by
  rw [alternativeName, variantName, String.toList_append, List.mem_append, not_or]
  exact ⟨noFeed, lineFeed_not_mem_typeIdentifier (Rules.lineFeed_not_mem_exported keeps _)⟩

theorem lineFeed_not_mem_innerName (keeps : rules.KeepsLines) {sum : String}
    (noFeed : '\n' ∉ sum.toList) (alternative : Node) :
    '\n' ∉ (innerName rules sum alternative).toList := by
  have name := lineFeed_not_mem_alternativeName keeps noFeed alternative
  rw [innerName]
  split
  · exact name
  · rw [String.toList_append, List.mem_append, not_or]
    exact ⟨name, by decide⟩

theorem lineFeed_not_mem_enteredName (keeps : rules.KeepsLines) {next : Site}
    (enters : Enters rules site next) (noFeed : '\n' ∉ site.name.toList) :
    '\n' ∉ next.name.toList := by
  cases enters with
  | member => exact Rules.lineFeed_not_mem_exported keeps _
  | wrapped => exact noFeed
  | alternative =>
      exact lineFeed_not_mem_innerName keeps (lineFeed_not_mem_typeIdentifier noFeed) _

/-- No line feed gets into a name of the walk. -/
theorem lineFeed_not_mem_name (plain : rules.overrides = [])
    (rootType : '\n' ∉ options.rootType.toList)
    (visits : Visits rules (Site.root options module) site) : '\n' ∉ site.name.toList := by
  induction visits with
  | refl => exact rootType
  | tail _ enters ih =>
      exact lineFeed_not_mem_enteredName (Rules.keepsLines_of_plain plain) enters ih

/-- The text of a comment: only the path can bring a line feed into it. -/
theorem toList_pathComment {identifier words : String} (apart : '\n' ∉ identifier.toList)
    (apart' : '\n' ∉ words.toList) (path : List String) :
    ∃ front c back, (pathComment identifier words path).toList =
        front ++ ((Path.dotted path).toList ++ c :: back) ∧
      "///".toList <+: front ∧ '\n' ∉ front ∧ '\n' ∉ c :: back ∧ c ∉ "///".toList := by
  have opening : "/// `".toList = "///".toList ++ [' ', '`'] := by decide
  have start (rest : List Char) : "///".toList <+: "/// `".toList ++ rest := by
    rw [opening, List.append_assoc]
    exact List.prefix_append ..
  have noFeed (last : List Char) (apart'' : '\n' ∉ last) :
      '\n' ∉ "/// `".toList ++ (identifier.toList ++ (words.toList ++ last)) := by
    simp only [List.mem_append, not_or]
    exact ⟨by decide, apart, apart', apart''⟩
  cases path with
  | nil =>
      exact ⟨_, '.', [], by simp [pathComment, describePath, Path.dotted], start _,
        noFeed "the root module".toList (by decide), by decide, by decide⟩
  | cons member rest =>
      exact ⟨_, '`', ['.'], by simp [pathComment, describePath, toString], start _,
        noFeed ['`'] (by decide), by decide, by decide⟩

section

variable {identifier words : String} (apart : '\n' ∉ identifier.toList)
  (apart' : '\n' ∉ words.toList) (path : List String)

include apart apart'

theorem splitOn_pathComment_iff :
    (pathComment identifier words path).toList.splitOn '\n' =
        [(pathComment identifier words path).toList] ↔
      ∀ member ∈ path, '\n' ∉ member.toList := by
  obtain ⟨front, c, back, text, -, noFeed, noFeed', -⟩ := toList_pathComment apart apart' path
  rw [splitOn_eq_singleton_iff, ← lineFeed_not_mem_dotted_iff, text, List.mem_append,
    or_iff_right noFeed, List.mem_append, or_iff_left noFeed']

theorem forall_mem_splitOn_pathComment_iff :
    (∀ line ∈ (pathComment identifier words path).toList.splitOn '\n', "///".toList <+: line) ↔
      ContinuesWith "///".toList (Path.dotted path).toList := by
  obtain ⟨front, c, back, text, start, noFeed, noFeed', ends⟩ :=
    toList_pathComment apart apart' path
  rw [forall_mem_splitOn_iff (by decide), text, continuesWith_append_iff ends noFeed noFeed']
  exact and_iff_right (List.prefix_append_of_prefix start)

end

/-- The lines that the comment of a declaration takes are lines of the file. -/
theorem splitOn_pathComment_isInfix {comment : String}
    (generated : generate options rules module = .ok file) (member : declaration ∈ file.declarations)
    (isComment : declaration.pathComment? = some comment) :
    comment.toList.splitOn '\n' <:+: file.source.toList.splitOn '\n' := by
  have isLine : comment ∈ file.lines :=
    List.mem_append_right _ (List.mem_flatMap.mpr
      ⟨declaration, member, List.mem_cons_of_mem _ (List.mem_of_head? (head?_lines isComment))⟩)
  obtain ⟨before, after, lines⟩ := List.append_of_mem isLine
  rw [source_of_generate generated, splitOn_textOfLines, lines, List.flatMap_append, List.flatMap_cons]
  refine List.IsInfix.trans ?_ (List.prefix_append _ _).isInfix
  exact ⟨_, _, List.append_assoc ..⟩

/-- Each type that stands for a part of the tree has a comment in front of it with the path of that
part, whose lines are lines of the file. The comment stays on one line exactly if no name on the path
has a line feed. All its lines are comments exactly if each line feed on the path has the mark of a
comment behind it. -/
theorem generate_pathComments (generated : generate options rules module = .ok file)
    (plain : rules.overrides = []) (rootType : '\n' ∉ options.rootType.toList) :
    (∀ site declaration, Visits rules (Site.root options module) site →
      Declares rules site.name site.path site.node declaration →
        declaration ∈ file.declarations ∧
          ∃ words comment, comment = pathComment declaration.identifier words site.path ∧
            declaration.pathComment? = some comment ∧
            declaration.lines.head? = some comment ∧
            comment.toList.splitOn '\n' <:+: file.source.toList.splitOn '\n' ∧
            (comment.toList.splitOn '\n' = [comment.toList] ↔
              ∀ member ∈ site.path, '\n' ∉ member.toList) ∧
            ((∀ line ∈ comment.toList.splitOn '\n', "///".toList <+: line) ↔
              ContinuesWith "///".toList (Path.dotted site.path).toList)) ∧
      ∀ declaration ∈ file.declarations, declaration.pathComment? ≠ none →
        ∃ site, Visits rules (Site.root options module) site ∧
          Declares rules site.name site.path site.node declaration := by
  constructor
  · intro site declaration visits declares
    obtain ⟨words, isComment, apart'⟩ := pathComment?_of_declares declares
    have member : declaration ∈ file.declarations := by
      rw [declarations_of_generate generated]
      exact (part_of_visits visits).declarations.subset declares.mem_declarations
    have apart : '\n' ∉ (typeIdentifier site.name).toList :=
      lineFeed_not_mem_typeIdentifier (lineFeed_not_mem_name plain rootType visits)
    exact ⟨member, words, _, by rw [declares.identifier_eq], isComment, head?_lines isComment,
      splitOn_pathComment_isInfix generated member isComment, splitOn_pathComment_iff apart apart' _,
      forall_mem_splitOn_pathComment_iff apart apart' _⟩
  · intro declaration member hasComment
    rw [declarations_of_generate generated] at member
    obtain ⟨site, visits, introduces⟩ := exists_introduces (.module module) member
    cases introduces with
    | own declares => exact ⟨site, visits, declares⟩
    | wrapper => exact absurd rfl hasComment

/-- The comment of the sum type in `service`. -/
theorem generate_pathComments_service :
    ∃ file comment, generate .standard .plain service = .ok file ∧
      (sumOf .plain "Backend" ["backend"] backends).pathComment? = some comment ∧
      comment.toList.splitOn '\n' = [comment.toList] := by
  obtain ⟨file, generated, -⟩ := Outcome.map_eq_ok.mp generate_service
  obtain ⟨comments, -⟩ := generate_pathComments generated rfl (by decide)
  obtain ⟨-, words, comment, -, isComment, -, -, alone, -⟩ :=
    comments _ _ visits_backends (.sum rfl)
  exact ⟨file, comment, generated, isComment, alone.mpr (by decide)⟩

/-- A module with a member whose name has a line feed. -/
def twoLines : Module :=
  ⟨[("a\nb", .module ⟨[]⟩)]⟩

/-- What stands behind the line feed of a name is a line of the file, and no comment. -/
theorem generate_twoLines_leaves_comment :
    ∃ file, generate .standard .plain twoLines = .ok file ∧
      (∃ declaration ∈ file.declarations,
        declaration.pathComment? = some "/// `AB` is the struct type for `a\nb`.") ∧
      "b`.".toList ∈ file.source.toList.splitOn '\n' ∧ ¬ "///".toList <+: "b`.".toList := by
  have generated : (generate .standard .plain twoLines).map (·.declarations) =
      .ok [.struct "Config" [] [⟨"a\nb", "ab", "", .named "AB"⟩], .struct "AB" ["a\nb"] []] := by
    decide +kernel
  obtain ⟨file, generated, declarations⟩ := Outcome.map_eq_ok.mp generated
  have member : .struct "AB" ["a\nb"] [] ∈ file.declarations :=
    declarations ▸ List.mem_cons_of_mem _ (List.mem_cons_self ..)
  have isComment : (Declaration.struct "AB" ["a\nb"] []).pathComment? =
      some "/// `AB` is the struct type for `a\nb`." := by
    decide +kernel
  have last : "b`.".toList ∈
      "/// `AB` is the struct type for `a\nb`.".toList.splitOn '\n' := by
    decide +kernel
  exact ⟨file, generated, ⟨_, member, isComment⟩,
    (splitOn_pathComment_isInfix generated member isComment).subset last, by decide⟩

end OptionSchema.Codegen
