import Mathlib.Data.List.Chain
import OptionSchema.Comment.Reflow
import OptionSchema.Proofs.Comment.Line

/-!
# Wrapping a paragraph

The words of a paragraph are put into rows, and each row becomes a line with a space between each two
words. A row takes words as long as they fit. Main statement: `isWrapped_wrap`.
-/

namespace OptionSchema.Comment

open Text (isBlank trimEnd words)

variable {width : Nat} {word text line : List Char} {row others : List (List Char)}

/-! ## Rows -/

def rowLine (row : List (List Char)) : List Char :=
  [' '].intercalate row

theorem rowLine_cons (word next : List Char) (others : List (List Char)) :
    rowLine (word :: next :: others) = word ++ ' ' :: rowLine (next :: others) := by
  rw [rowLine, rowLine, List.intercalate_cons_cons, List.append_assoc, List.singleton_append]

theorem rowLine_singleton (word : List Char) : rowLine [word] = word :=
  List.intercalate_singleton

theorem isPrefix_rowLine (word : List Char) (others : List (List Char)) :
    word <+: rowLine (word :: others) := by
  cases others with
  | nil => exact (rowLine_singleton word).symm ▸ List.prefix_rfl
  | cons next others =>
      rw [rowLine_cons]
      exact List.prefix_append word _

theorem rowLine_concat (some : row ≠ []) (word : List Char) :
    rowLine (row ++ [word]) = rowLine row ++ ' ' :: word := by
  induction row with
  | nil => exact absurd rfl some
  | cons first rest ih =>
      cases rest with
      | nil => rw [List.singleton_append, rowLine_cons, rowLine_singleton, rowLine_singleton]
      | cons next rest =>
          rw [List.cons_append, List.cons_append, rowLine_cons, ← List.cons_append,
            ih (List.cons_ne_nil next rest), rowLine_cons, List.append_assoc, List.cons_append]

/-- Words, which have characters and no blanks. -/
def AreWords (row : List (List Char)) : Prop :=
  ∀ word ∈ row, word ≠ [] ∧ ∀ c ∈ word, isBlank c = false

theorem words_rowLine (areWords : AreWords row) : words (rowLine row) = row :=
  Text.words_intercalate (by decide) areWords

theorem rowLine_ne_nil (areWords : AreWords row) (some : row ≠ []) : rowLine row ≠ [] := by
  intro empty
  have none := words_rowLine areWords
  rw [empty] at none
  exact some none.symm

/-- A line has no blanks but the spaces between its words. -/
theorem eq_space_of_mem_rowLine (areWords : AreWords row) :
    ∀ c ∈ rowLine row, isBlank c = true → c = ' ' := by
  induction row with
  | nil => exact List.forall_mem_nil _
  | cons word others ih =>
      obtain ⟨⟨-, visible⟩, areWords⟩ := List.forall_mem_cons.mp areWords
      have own : ∀ c ∈ word, isBlank c = true → c = ' ' := by
        intro c member blank
        rw [visible c member] at blank
        cases blank
      cases others with
      | nil =>
          rw [rowLine_singleton]
          exact own
      | cons next others =>
          rw [rowLine_cons, List.forall_mem_append, List.forall_mem_cons]
          exact ⟨own, fun _ => rfl, ih areWords⟩

theorem trimEnd_append (nonempty : trimEnd text ≠ []) (front : List Char) :
    trimEnd (front ++ text) = front ++ trimEnd text := by
  induction front with
  | nil => rfl
  | cons c front ih =>
      have some : (front ++ trimEnd text).isEmpty = false := by
        rw [List.isEmpty_eq_false_iff]
        exact List.append_ne_nil_of_right_ne_nil front nonempty
      rw [List.cons_append, Text.trimEnd_cons, ih, some, Bool.false_and,
        if_neg Bool.false_ne_true, List.cons_append]

theorem trimEnd_of_visible (visible : ∀ c ∈ word, isBlank c = false) : trimEnd word = word := by
  rw [Text.trimEnd_eq_rdropWhile, List.rdropWhile_eq_self_iff]
  intro some
  rw [visible _ (List.getLast_mem some)]
  exact Bool.false_ne_true

/-- A line ends with a word. -/
theorem trimEnd_rowLine (areWords : AreWords row) : trimEnd (rowLine row) = rowLine row := by
  induction row with
  | nil => rfl
  | cons word others ih =>
      obtain ⟨⟨-, visible⟩, areWords⟩ := List.forall_mem_cons.mp areWords
      cases others with
      | nil =>
          rw [rowLine_singleton]
          exact trimEnd_of_visible visible
      | cons next others =>
          have kept := ih areWords
          have some : trimEnd (rowLine (next :: others)) ≠ [] := by
            rw [kept]
            exact rowLine_ne_nil areWords (List.cons_ne_nil next others)
          rw [rowLine_cons, ← List.singleton_append, ← List.append_assoc, trimEnd_append some, kept]

/-! ## Filling rows -/

/-- Rows that are filled greedily: none is empty, a row that is too long has one word, and the first
word of a row did not fit into the row in front of it. -/
structure IsFilled (width : Nat) (rows : List (List (List Char))) : Prop where
  nonempty : ∀ row ∈ rows, row ≠ []
  fits : ∀ row ∈ rows, (rowLine row).length ≤ width ∨ ∃ word, row = [word]
  greedy : rows.IsChain fun row next =>
    ∀ word ∈ next.head?, width < (rowLine row).length + 1 + word.length

theorem IsFilled.singleton (some : row ≠ [])
    (fits : (rowLine row).length ≤ width ∨ ∃ word, row = [word]) : IsFilled width [row] :=
  ⟨List.forall_mem_singleton.mpr some, List.forall_mem_singleton.mpr fits, .singleton row⟩

/-- By induction on the words behind the row that is being filled. -/
theorem exists_fill_eq (words : List (List Char)) (areWords : AreWords (row ++ words))
    (some : row ≠ []) (fits : (rowLine row).length ≤ width ∨ ∃ word, row = [word]) :
    ∃ more rows, fill width (rowLine row) words = ((row ++ more) :: rows).map rowLine ∧
      more ++ rows.flatten = words ∧ IsFilled width ((row ++ more) :: rows) := by
  have isOpen : (rowLine row).isEmpty = false := by
    rw [List.isEmpty_eq_false_iff]
    exact rowLine_ne_nil (fun word member => areWords word (List.mem_append_left _ member)) some
  induction words generalizing row with
  | nil =>
      refine ⟨[], [], ?_, rfl, ?_⟩
      · rw [fill, isOpen, List.append_nil]
        rfl
      · rw [List.append_nil]
        exact .singleton some fits
  | cons word words ih =>
      rw [fill, isOpen, if_neg Bool.false_ne_true]
      by_cases full : width < (rowLine row).length + 1 + word.length
      · rw [if_pos full]
        have ownWords : AreWords ([word] ++ words) := fun other member =>
          areWords other (List.mem_append_right row member)
        have nonempty : word ≠ [] := (ownWords word (List.mem_cons_self ..)).1
        obtain ⟨more, rows, filled, flatten, isFilled⟩ :=
          ih ownWords (List.cons_ne_nil word []) (.inr ⟨word, rfl⟩)
            (by rw [rowLine_singleton]; simpa using nonempty)
        rw [rowLine_singleton] at filled
        refine ⟨[], ([word] ++ more) :: rows, ?_, ?_, ?_, ?_, ?_⟩
        · rw [filled, List.append_nil]
          rfl
        · rw [List.nil_append, List.flatten_cons, List.append_assoc, flatten]
          rfl
        · rw [List.append_nil]
          exact List.forall_mem_cons.mpr ⟨some, isFilled.nonempty⟩
        · rw [List.append_nil]
          exact List.forall_mem_cons.mpr ⟨fits, isFilled.fits⟩
        · rw [List.append_nil]
          refine .cons_cons ?_ isFilled.greedy
          rintro first ⟨⟩
          exact full
      · rw [if_neg full, ← rowLine_concat some]
        rw [← List.singleton_append, ← List.append_assoc] at areWords
        have fits' : (rowLine (row ++ [word])).length ≤ width := by
          rw [rowLine_concat some, List.length_append, List.length_cons]
          omega
        have longer : row ++ [word] ≠ [] := by simp
        obtain ⟨more, rows, filled, flatten, isFilled⟩ := ih areWords longer (.inl fits')
          (by rw [rowLine_concat some]; simp)
        rw [List.append_assoc, List.singleton_append] at filled isFilled
        exact ⟨word :: more, rows, filled, by rw [List.cons_append, flatten], isFilled⟩

/-- The lines of a paragraph are rows of its words. -/
theorem exists_wrap_eq (width : Nat) (text : List Char) :
    ∃ rows, wrap width text = rows.map rowLine ∧ rows.flatten = words text ∧
      IsFilled width rows := by
  have areWords : AreWords (words text) := Text.forall_mem_words text
  rw [wrap]
  cases divided : words text with
  | nil => exact ⟨[], rfl, rfl, List.forall_mem_nil _, List.forall_mem_nil _, .nil⟩
  | cons word rest =>
      rw [divided] at areWords
      obtain ⟨more, rows, filled, flatten, isFilled⟩ := exists_fill_eq rest areWords
        (List.cons_ne_nil word []) (.inr ⟨word, rfl⟩)
      rw [rowLine_singleton] at filled
      refine ⟨([word] ++ more) :: rows, ?_, ?_, isFilled⟩
      · exact filled
      · rw [List.flatten_cons, List.append_assoc, flatten]
        rfl

/-! ## Lines -/

/-- The first word of the next line does not fit behind a line. -/
def Exceeds (width : Nat) (line next : List Char) : Prop :=
  ∃ word rest, words next = word :: rest ∧ width < line.length + 1 + word.length

/-- The lines of a wrapped paragraph have its words in order. Each starts with its first word, ends
with a word and has no blanks but spaces. A line that is too long is a single word, and no line has
room for the first word of the next one. -/
structure IsWrapped (width : Nat) (text : List Char) (lines : List (List Char)) : Prop where
  words_eq : lines.flatMap words = words text
  starts : ∀ line ∈ lines, ∃ word rest, words line = word :: rest ∧ word <+: line
  spaces : ∀ line ∈ lines, ∀ c ∈ line, isBlank c = true → c = ' '
  trimmed : ∀ line ∈ lines, trimEnd line = line
  fits : ∀ line ∈ lines, line.length ≤ width ∨ words line = [line]
  greedy : lines.IsChain (Exceeds width)

theorem isWrapped_wrap (width : Nat) (text : List Char) :
    IsWrapped width text (wrap width text) := by
  obtain ⟨rows, same, flatten, isFilled⟩ := exists_wrap_eq width text
  have areWords : ∀ row ∈ rows, AreWords row := by
    intro row isRow word member
    apply Text.forall_mem_words text
    rw [← flatten]
    exact List.mem_flatten_of_mem isRow member
  have rowWords : ∀ row ∈ rows, words (rowLine row) = row := fun row isRow =>
    words_rowLine (areWords row isRow)
  rw [same]
  constructor
  case words_eq =>
    rw [List.flatMap_map, List.flatMap_congr rowWords, List.flatMap_id', flatten]
  case starts =>
    rw [List.forall_mem_map]
    intro row isRow
    obtain ⟨word, rest, rfl⟩ := List.exists_cons_of_ne_nil (isFilled.nonempty row isRow)
    exact ⟨word, rest, rowWords _ isRow, isPrefix_rowLine word rest⟩
  case spaces =>
    rw [List.forall_mem_map]
    exact fun row isRow => eq_space_of_mem_rowLine (areWords row isRow)
  case trimmed =>
    rw [List.forall_mem_map]
    exact fun row isRow => trimEnd_rowLine (areWords row isRow)
  case fits =>
    rw [List.forall_mem_map]
    intro row isRow
    refine (isFilled.fits row isRow).imp_right ?_
    rintro ⟨word, rfl⟩
    rw [rowWords _ isRow, rowLine_singleton]
  case greedy =>
    rw [List.isChain_map]
    refine isFilled.greedy.imp_of_mem_imp ?_
    intro row next _ isRow exceeds
    obtain ⟨word, rest, rfl⟩ := List.exists_cons_of_ne_nil (isFilled.nonempty next isRow)
    exact ⟨word, rest, rowWords _ isRow, exceeds word rfl⟩

theorem IsWrapped.line_ne_nil {lines : List (List Char)} (wrapped : IsWrapped width text lines) :
    ∀ line ∈ lines, line ≠ [] := by
  rintro line member rfl
  obtain ⟨word, rest, some, -⟩ := wrapped.starts [] member
  cases some

theorem IsWrapped.ne_nil {lines : List (List Char)} (wrapped : IsWrapped width text lines)
    (some : words text ≠ []) : lines ≠ [] := by
  rintro rfl
  exact some wrapped.words_eq.symm

end OptionSchema.Comment
