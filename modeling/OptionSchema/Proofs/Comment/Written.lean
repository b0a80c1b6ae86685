import Mathlib.Data.String.Basic
import OptionSchema.Proofs.Codegen.Source
import OptionSchema.Proofs.Comment.Reflow

/-!
# Written comments

The lines of a reflowed description are clean: they are written as they are, each on one line. So a
comment indented by spaces keeps its columns (`comment_columns`). Only a line of a fenced block can
bring a carriage return into a comment (`return_mem_comment_iff`).
-/

namespace OptionSchema.Comment

open Text (isBlank trimEnd trimStart words)

variable {c : Char} {width n : Nat} {mark : Bool} {description line text indent source : List Char}
  {lines : List (List Char)}

/-! ## Clean lines -/

/-- A line that is written as it is, and on one line. -/
structure IsClean (line : List Char) : Prop where
  kept : sanitize line = line
  noFeed : '\n' ∉ line

theorem IsClean.trimmed (clean : IsClean line) : trimEnd line = line := by
  rw [← clean.kept]
  exact List.rdropWhile_idempotent isBlank _

theorem mem_of_mem_sanitize (member : c ∈ sanitize line) : c = ' ' ∨ c ∈ line := by
  have untrimmed : c ∈ line.flatMap untabbed :=
    (List.rdropWhile_prefix isBlank _).subset member
  rw [List.mem_flatMap] at untrimmed
  obtain ⟨d, isIn, written⟩ := untrimmed
  by_cases tab : d = '\t'
  · subst tab
    left
    have spaces : c ∈ List.replicate 4 ' ' := written
    exact List.eq_of_mem_replicate spaces
  · right
    rw [untabbed_of_ne tab, List.mem_singleton] at written
    rw [written]
    exact isIn

theorem isClean_nil : IsClean [] :=
  ⟨rfl, List.not_mem_nil⟩

theorem isClean_sanitize (noFeed : '\n' ∉ line) : IsClean (sanitize line) := by
  refine ⟨sanitize_sanitize line, ?_⟩
  intro member
  rcases mem_of_mem_sanitize member with space | isIn
  · exact absurd space (by decide)
  · exact noFeed isIn

theorem IsWrapped.not_mem (wrapped : IsWrapped width text lines) (blank : isBlank c = true)
    (other : c ≠ ' ') : ∀ line ∈ lines, c ∉ line := by
  intro line isLine member
  apply other
  exact wrapped.spaces line isLine c member blank

theorem IsWrapped.isClean (wrapped : IsWrapped width text lines) : ∀ line ∈ lines, IsClean line := by
  intro line isLine
  constructor
  · apply sanitize_of_trimEnd
    · exact wrapped.not_mem (by decide) (by decide) line isLine
    · exact wrapped.trimmed line isLine
  · exact wrapped.not_mem (by decide) (by decide) line isLine

/-- Where a line of a fenced block comes from: a line behind the opening one, or the opening line,
without the blanks in front of it. -/
theorem mem_fencedLines_start_iff :
    text ∈ fencedLines false lines ↔ ∃ before source after, lines = before ++ source :: after ∧
      (fenceOpen before = true ∧ text = sanitize source ∨
        fenceOpen before = false ∧ isFenceLine source = true ∧ text = sanitize (trimStart source)) := by
  have part (before : List (List Char)) (source : List Char) :
      text ∈ fencedPart (false != fenceOpen before) source ↔
        fenceOpen before = true ∧ text = sanitize source ∨
          fenceOpen before = false ∧ isFenceLine source = true ∧
            text = sanitize (trimStart source) := by
    rw [Bool.false_bne, fencedPart, bare_eq]
    cases fenceOpen before <;> cases isFenceLine source <;> simp
  rw [mem_fencedLines_iff]
  simp only [part]

theorem isClean_of_mem_fencedLines
    (member : text ∈ fencedLines false (Text.lines description)) : IsClean text := by
  obtain ⟨before, source, after, stands, origin⟩ := mem_fencedLines_start_iff.mp member
  have noFeed : '\n' ∉ source := by
    apply Text.lineFeed_not_mem_lines description
    rw [stands]
    exact List.mem_append_right before (List.mem_cons_self ..)
  rcases origin with ⟨-, rfl⟩ | ⟨-, -, rfl⟩
  · exact isClean_sanitize noFeed
  · apply isClean_sanitize
    intro isIn
    exact noFeed ((List.dropWhile_suffix isBlank).subset isIn)

/-- A line of a reflowed description is a line of a fenced block, a line of a paragraph, or empty. -/
theorem mem_markedReflow (member : (mark, line) ∈ markedReflow width description) :
    mark = true ∧ line ∈ fencedLines false (Text.lines description) ∨
      mark = false ∧ (line = [] ∨ ∃ text, line ∈ wrap (max width leastWidth) text) := by
  obtain ⟨block, isBlock, inBlock⟩ := List.mem_flatMap.mp member
  rw [Block.marked, List.mem_map] at inBlock
  obtain ⟨_, isLine, ⟨⟩⟩ := inBlock
  cases block with
  | paragraph text => exact .inr ⟨rfl, .inr ⟨text, isLine⟩⟩
  | verbatim lines =>
      rw [← flatMap_code_blocksOf]
      exact .inl ⟨rfl, List.mem_flatMap.mpr ⟨_, isBlock, isLine⟩⟩
  | gap => exact .inr ⟨rfl, .inl (List.mem_singleton.mp isLine)⟩

theorem isClean_of_mem_markedReflow (member : (mark, line) ∈ markedReflow width description) :
    IsClean line := by
  rcases mem_markedReflow member with ⟨-, fenced⟩ | ⟨-, rfl | ⟨text, wrapped⟩⟩
  · exact isClean_of_mem_fencedLines fenced
  · exact isClean_nil
  · exact (isWrapped_wrap _ text).isClean line wrapped

/-- A line outside of fenced blocks fits, if it has more than one word. -/
theorem fits_of_mem_markedReflow (member : (false, line) ∈ markedReflow width description) :
    line.length ≤ max width leastWidth ∨ words line = [line] := by
  rcases mem_markedReflow member with ⟨fenced, -⟩ | ⟨-, rfl | ⟨text, wrapped⟩⟩
  · cases fenced
  · exact .inl (Nat.zero_le _)
  · exact (isWrapped_wrap _ text).fits line wrapped

/-- The lines of a paragraph stand together. -/
theorem exists_paragraph_lines {base more : List Block}
    (blocks : blocksOf description = base ++ .paragraph text :: more) (width : Nat) :
    ∃ start lines rest,
      markedReflow width description = start ++ List.map (false, ·) lines ++ rest ∧
        markedWords start = base.flatMap Block.words ∧
        IsWrapped (max width leastWidth) text lines := by
  have whole := markedReflow_eq blocks width
  rw [← List.append_assoc] at whole
  exact ⟨_, _, _, whole, markedWords_flatMap _ base, isWrapped_wrap _ text⟩

/-! ## Comments indented by spaces -/

def spaces (n : Nat) : String :=
  String.ofList (List.replicate n ' ')

theorem toList_spaces (n : Nat) : (spaces n).toList = List.replicate n ' ' :=
  String.toList_ofList

theorem not_mem_spaces (other : c ≠ ' ') : c ∉ (spaces n).toList := by
  rw [toList_spaces]
  intro member
  exact other (List.eq_of_mem_replicate member)

theorem utf8ByteSize_spaces (n : Nat) : (spaces n).utf8ByteSize = n := by
  rw [spaces, String.utf8ByteSize_ofList]
  induction n with
  | zero => rfl
  | succ n ih =>
      rw [List.replicate_succ, String.utf8Len_cons, ih]
      rfl

/-- What stands on a line of a comment for a text: the indent and three slashes, alone or followed by
a space and the text, which ends with no blank and has no line feed. -/
inductive IsCommentLine (indent : List Char) : List Char → List Char → Prop where
  | slashes : IsCommentLine indent [] (indent ++ ['/', '/', '/'])
  | text {text : List Char} (nonempty : text ≠ []) (trimmed : trimEnd text = text)
      (noFeed : '\n' ∉ text) : IsCommentLine indent text (indent ++ ['/', '/', '/', ' '] ++ text)

theorem IsClean.isCommentLine (clean : IsClean text) (indent : List Char) :
    IsCommentLine indent text (commentLine indent text) := by
  rw [commentLine, clean.kept]
  cases text with
  | nil =>
      rw [List.isEmpty_nil, if_pos rfl, List.append_nil]
      exact .slashes
  | cons c rest =>
      have whole : indent ++ ['/', '/', '/'] ++ ' ' :: c :: rest =
          indent ++ ['/', '/', '/', ' '] ++ c :: rest := by
        rw [List.append_assoc, List.append_assoc]
        rfl
      rw [List.isEmpty_cons, if_neg Bool.false_ne_true, whole]
      exact .text (List.cons_ne_nil c rest) clean.trimmed clean.noFeed

theorem IsCommentLine.length_le (isLine : IsCommentLine indent text line) :
    line.length ≤ indent.length + 4 + text.length := by
  cases isLine with
  | slashes => simp
  | text =>
      rw [List.length_append, List.length_append]
      exact Nat.le_refl _

/-- A character that neither the indent nor the slashes bring in. -/
theorem IsCommentLine.mem_iff (isLine : IsCommentLine indent text line) (noIndent : c ∉ indent)
    (noSlash : c ≠ '/') (noSpace : c ≠ ' ') : c ∈ line ↔ c ∈ text := by
  cases isLine with
  | slashes => simp [noIndent, noSlash]
  | text => simp [noIndent, noSlash, noSpace]

theorem comment_spaces (n : Nat) (description : String) :
    comment (spaces n) description =
      (markedReflow (columns - (n + 4)) description.toList).map
        fun marked => commentLine (spaces n).toList marked.2 := by
  rw [comment, utf8ByteSize_spaces, ← map_snd_markedReflow, List.map_map]
  rfl

theorem isCommentLine_of_mem_comment {description : String}
    (member : line ∈ comment (spaces n) description) :
    ∃ mark text, (mark, text) ∈ markedReflow (columns - (n + 4)) description.toList ∧
      IsCommentLine (spaces n).toList text line := by
  rw [comment_spaces, List.mem_map] at member
  obtain ⟨⟨mark, text⟩, isMarked, rfl⟩ := member
  exact ⟨mark, text, isMarked, (isClean_of_mem_markedReflow isMarked).isCommentLine _⟩

/-- Up to 56 spaces leave more columns than the least width. -/
theorem IsCommentLine.fits_columns (isLine : IsCommentLine (spaces n).toList text line)
    (narrow : n ≤ 56) (isMarked : (false, text) ∈ markedReflow (columns - (n + 4)) description) :
    line.length ≤ 80 ∨ words text = [text] := by
  rcases fits_of_mem_markedReflow isMarked with fits | word
  · left
    have indent : (spaces n).toList.length = n := by rw [toList_spaces, List.length_replicate]
    have short := isLine.length_le
    rw [indent] at short
    rw [columns, leastWidth] at fits
    omega
  · exact .inr word

/-- A written comment has the lines of the comment. -/
theorem splitOn_comment (n : Nat) (description : String) :
    (Codegen.textOfLines ((comment (spaces n) description).map String.ofList)).toList.splitOn '\n' =
      comment (spaces n) description ++ [[]] := by
  have oneLine : ∀ line ∈ comment (spaces n) description,
      (String.ofList line).toList.splitOn '\n' = [line] := by
    intro line member
    obtain ⟨mark, text, isMarked, isLine⟩ := isCommentLine_of_mem_comment member
    rw [String.toList_ofList]
    apply List.splitOn_eq_singleton
    rw [isLine.mem_iff (not_mem_spaces (by decide)) (by decide) (by decide)]
    exact (isClean_of_mem_markedReflow isMarked).noFeed
  rw [Codegen.splitOn_textOfLines, List.flatMap_map, List.flatMap_congr oneLine,
    List.flatMap_singleton']

/-- A comment that is indented by spaces has a line for each line of the reflowed description. With an
indent of at most 56 spaces, a line outside of fenced blocks has at most 80 characters, unless its
text is a single word. The lines of a paragraph have its words, and none has room for the first word
of the next one. -/
theorem comment_columns (n : Nat) (description : String) :
    let out := markedReflow (columns - (n + 4)) description.toList
    (Codegen.textOfLines ((comment (spaces n) description).map String.ofList)).toList.splitOn '\n' =
        comment (spaces n) description ++ [[]] ∧
      List.Forall₂
        (fun marked line => IsCommentLine (spaces n).toList marked.2 line ∧
          (n ≤ 56 → marked.1 = false → line.length ≤ 80 ∨ words marked.2 = [marked.2]))
        out (comment (spaces n) description) ∧
      (out.filter Prod.fst).map Prod.snd = fencedLines false (Text.lines description.toList) ∧
      ∀ before text after, blocksOf description.toList = before ++ .paragraph text :: after →
        ∃ start lines rest, out = start ++ List.map (false, ·) lines ++ rest ∧
          markedWords start = before.flatMap Block.words ∧ lines.flatMap words = words text ∧
          lines.IsChain (Exceeds (max (80 - (n + 4)) 20)) := by
  intro out
  refine ⟨splitOn_comment n description, ?_, filter_markedReflow _ _, ?_⟩
  · rw [comment_spaces, List.forall₂_map_right_iff, List.forall₂_same]
    rintro ⟨mark, text⟩ isMarked
    have isLine := (isClean_of_mem_markedReflow isMarked).isCommentLine (spaces n).toList
    refine ⟨isLine, ?_⟩
    rintro narrow rfl
    exact isLine.fits_columns narrow isMarked
  · intro before text after blocks
    obtain ⟨start, lines, rest, whole, inFront, wrapped⟩ := exists_paragraph_lines blocks _
    exact ⟨start, lines, rest, whole, inFront, wrapped.words_eq, wrapped.greedy⟩

/-- A description with a paragraph that is wrapped and a fenced block. -/
def poolNotes : String :=
  "How many connections it has.\n```\n\tx; \n```"

theorem comment_columns_poolNotes :
    comment (spaces 50) poolNotes =
        (["/// How many connections it", "/// has.", "/// ```", "///     x;", "/// ```"].map
          fun line => (spaces 50).toList ++ line.toList) ∧
      List.Forall₂
        (fun marked line => IsCommentLine (spaces 50).toList marked.2 line ∧
          (marked.1 = false → line.length ≤ 80 ∨ words marked.2 = [marked.2]))
        (markedReflow 26 poolNotes.toList) (comment (spaces 50) poolNotes) ∧
      ∃ start lines rest,
        markedReflow 26 poolNotes.toList = start ++ List.map (false, ·) lines ++ rest ∧
          lines.flatMap words = words "How many connections it has.".toList ∧
          lines.IsChain (Exceeds 26) := by
  obtain ⟨-, each, -, greedy⟩ := comment_columns 50 poolNotes
  refine ⟨by decide +kernel, ?_, ?_⟩
  · refine each.imp ?_
    rintro marked line ⟨isLine, fits⟩
    exact ⟨isLine, fits (by decide)⟩
  · obtain ⟨start, lines, rest, whole, -, sameWords, chain⟩ :=
      greedy [] "How many connections it has.".toList
        [.verbatim ["```".toList, "    x;".toList, "```".toList]] (by decide +kernel)
    exact ⟨start, lines, rest, whole, sameWords, chain⟩

/-! ## Carriage returns -/

/-- A text has a carriage return with a character somewhere behind it that is no blank. -/
def HasInnerReturn (text : List Char) : Prop :=
  ∃ front back, text = front ++ '\r' :: back ∧ ∃ c ∈ back, isBlank c = false

theorem hasInnerReturn_cons : HasInnerReturn (c :: text) ↔
    c = '\r' ∧ (∃ d ∈ text, isBlank d = false) ∨ HasInnerReturn text := by
  constructor
  · rintro ⟨front, back, same, visible⟩
    cases front with
    | nil =>
        obtain ⟨rfl, rfl⟩ := List.cons.inj same
        exact .inl ⟨rfl, visible⟩
    | cons d front =>
        obtain ⟨rfl, rfl⟩ := List.cons.inj same
        exact .inr ⟨front, back, rfl, visible⟩
  · rintro (⟨rfl, visible⟩ | ⟨front, back, rfl, visible⟩)
    · exact ⟨[], text, rfl, visible⟩
    · exact ⟨c :: front, back, rfl, visible⟩

theorem exists_visible_iff : (∃ c ∈ text, isBlank c = false) ↔ words text ≠ [] := by
  rw [Ne, Text.words_eq_nil_iff]
  simp

theorem return_mem_trimEnd_iff : '\r' ∈ trimEnd text ↔ HasInnerReturn text := by
  induction text with
  | nil =>
      constructor
      · intro member
        cases member
      · rintro ⟨front, back, same, -⟩
        simp at same
  | cons c rest ih =>
      rw [Text.trimEnd_cons, hasInnerReturn_cons, ← ih]
      by_cases visible : ∃ d ∈ rest, isBlank d = false
      · have some : (trimEnd rest).isEmpty = false := by
          rw [List.isEmpty_eq_false_iff, Text.trimEnd_eq_rdropWhile, Ne,
            List.rdropWhile_eq_nil_iff]
          simpa using visible
        rw [some, Bool.false_and, if_neg Bool.false_ne_true, List.mem_cons, and_iff_left visible,
          eq_comm]
      · have none : trimEnd rest = [] := by
          rw [Text.trimEnd_eq_rdropWhile, List.rdropWhile_eq_nil_iff]
          simpa using visible
        rw [none, List.isEmpty_nil, Bool.true_and]
        by_cases blank : isBlank c = true
        · rw [if_pos blank]
          simp [visible]
        · have other : '\r' ≠ c := by
            rintro rfl
            exact blank (by decide)
          rw [if_neg blank]
          simp [visible, other]

theorem hasInnerReturn_untabbed : HasInnerReturn (text.flatMap untabbed) ↔ HasInnerReturn text := by
  induction text with
  | nil => rfl
  | cons c rest ih =>
      rw [List.flatMap_cons, hasInnerReturn_cons, ← ih]
      by_cases tab : c = '\t'
      · subst tab
        have four : untabbed '\t' ++ rest.flatMap untabbed =
            ' ' :: ' ' :: ' ' :: ' ' :: rest.flatMap untabbed := rfl
        rw [four]
        simp only [hasInnerReturn_cons]
        simp
      · have same : words (rest.flatMap untabbed) = words rest := words_append_untabbed [] rest
        rw [untabbed_of_ne tab, List.singleton_append, hasInnerReturn_cons, exists_visible_iff,
          exists_visible_iff, same]

/-- A carriage return is written if a character that is no blank stands behind it in its line. -/
theorem return_mem_sanitize_iff : '\r' ∈ sanitize text ↔ HasInnerReturn text := by
  rw [sanitize_eq, return_mem_trimEnd_iff, hasInnerReturn_untabbed]

/-- A carriage return in a reflowed description stands in a line of a fenced block. -/
theorem return_mem_reflow_iff :
    (∃ mark line, (mark, line) ∈ markedReflow width description ∧ '\r' ∈ line) ↔
      ∃ line ∈ fencedLines false (Text.lines description), '\r' ∈ line := by
  constructor
  · rintro ⟨mark, line, isMarked, member⟩
    rcases mem_markedReflow isMarked with ⟨-, fenced⟩ | ⟨-, rfl | ⟨text, isLine⟩⟩
    · exact ⟨line, fenced, member⟩
    · cases member
    · have wrapped := isWrapped_wrap (max width leastWidth) text
      exact absurd member (wrapped.not_mem (by decide) (by decide) line isLine)
  · rintro ⟨line, fenced, member⟩
    rw [← filter_markedReflow width, List.mem_map] at fenced
    obtain ⟨⟨mark, line⟩, isMarked, rfl⟩ := fenced
    exact ⟨mark, line, (List.mem_filter.mp isMarked).1, member⟩

theorem mem_textOfLines_iff (noFeed : c ≠ '\n') :
    c ∈ (Codegen.textOfLines (lines.map String.ofList)).toList ↔ ∃ line ∈ lines, c ∈ line := by
  induction lines with
  | nil => simp [Codegen.textOfLines]
  | cons line rest ih =>
      have text : (Codegen.textOfLines ((line :: rest).map String.ofList)).toList =
          line ++ '\n' :: (Codegen.textOfLines (rest.map String.ofList)).toList := by
        simp [Codegen.textOfLines]
      rw [text, List.mem_append, List.mem_cons, ih, or_iff_right noFeed, List.exists_mem_cons_iff]

theorem return_mem_comment_lines_iff {description : String} :
    (∃ line ∈ comment (spaces n) description, '\r' ∈ line) ↔
      ∃ line ∈ fencedLines false (Text.lines description.toList), '\r' ∈ line := by
  have noIndent : '\r' ∉ (spaces n).toList := not_mem_spaces (by decide)
  rw [← return_mem_reflow_iff]
  constructor
  · rintro ⟨line, isLine, member⟩
    obtain ⟨mark, text, isMarked, written⟩ := isCommentLine_of_mem_comment isLine
    exact ⟨mark, text, isMarked, (written.mem_iff noIndent (by decide) (by decide)).mp member⟩
  · rintro ⟨mark, text, isMarked, member⟩
    have written := (isClean_of_mem_markedReflow isMarked).isCommentLine (spaces n).toList
    refine ⟨_, ?_, (written.mem_iff noIndent (by decide) (by decide)).mpr member⟩
    rw [comment_spaces]
    exact List.mem_map.mpr ⟨_, isMarked, rfl⟩

/-- A comment that is indented by spaces has a carriage return exactly if there is one in a line of a
fenced block of the description, with a character behind it in this line that is no blank. The
opening line of a fenced block is written without the blanks in front of it. -/
theorem return_mem_comment_iff (n : Nat) (description : String) :
    '\r' ∈ (Codegen.textOfLines ((comment (spaces n) description).map String.ofList)).toList ↔
      ∃ before source after, Text.lines description.toList = before ++ source :: after ∧
        (fenceOpen before = true ∧ HasInnerReturn source ∨
          fenceOpen before = false ∧ isFenceLine source = true ∧
            HasInnerReturn (trimStart source)) := by
  rw [mem_textOfLines_iff (by decide), return_mem_comment_lines_iff]
  constructor
  · rintro ⟨line, fenced, member⟩
    obtain ⟨before, source, after, stands, origin⟩ := mem_fencedLines_start_iff.mp fenced
    refine ⟨before, source, after, stands, ?_⟩
    rcases origin with ⟨isOpen, rfl⟩ | ⟨isClosed, fence, rfl⟩
    · exact .inl ⟨isOpen, return_mem_sanitize_iff.mp member⟩
    · exact .inr ⟨isClosed, fence, return_mem_sanitize_iff.mp member⟩
  · rintro ⟨before, source, after, stands, ⟨isOpen, inner⟩ | ⟨isClosed, fence, inner⟩⟩
    · exact ⟨sanitize source, mem_fencedLines_start_iff.mpr
        ⟨before, source, after, stands, .inl ⟨isOpen, rfl⟩⟩, return_mem_sanitize_iff.mpr inner⟩
    · exact ⟨sanitize (trimStart source), mem_fencedLines_start_iff.mpr
        ⟨before, source, after, stands, .inr ⟨isClosed, fence, rfl⟩⟩,
        return_mem_sanitize_iff.mpr inner⟩

/-- A carriage return within a line of code is written into the comment. -/
theorem comment_keeps_return :
    comment "" "```\na\rb\n```" = ["/// ```".toList, "/// a\rb".toList, "/// ```".toList] ∧
      '\r' ∈ (Codegen.textOfLines ((comment "" "```\na\rb\n```").map String.ofList)).toList := by
  decide +kernel

end OptionSchema.Comment
