import OptionSchema.Comment.Block
import OptionSchema.Proofs.Text.Words

/-!
# The lines of a description

How a line is written into a comment, and which part it has in its description. Each line with a
fence opens a fenced block, or closes the one that is open, so the lines in front of a line decide
whether it stands in a fenced block (`fenceOpen`).
-/

namespace OptionSchema.Comment

open Text (isBlank trimEnd trimStart trimEnd_cons words)

variable {c : Char} {line text front mark : List Char} {lines : List (List Char)}

/-! ## Blanks around a line -/

def untabbed (c : Char) : List Char :=
  if c == '\t' then [' ', ' ', ' ', ' '] else [c]

theorem sanitize_eq (line : List Char) : sanitize line = trimEnd (line.flatMap untabbed) :=
  rfl

theorem untabbed_of_ne (noTab : c ≠ '\t') : untabbed c = [c] :=
  if_neg (by simp [noTab])

theorem flatMap_untabbed_of_not_mem (noTab : '\t' ∉ line) : line.flatMap untabbed = line := by
  induction line with
  | nil => rfl
  | cons c rest ih =>
      rw [List.mem_cons, not_or] at noTab
      rw [List.flatMap_cons, untabbed_of_ne fun same => noTab.1 same.symm, ih noTab.2]
      rfl

theorem tab_not_mem_flatMap_untabbed (line : List Char) : '\t' ∉ line.flatMap untabbed := by
  rw [List.mem_flatMap]
  rintro ⟨c, -, member⟩
  by_cases tab : c = '\t'
  · subst tab
    revert member
    decide
  · rw [untabbed_of_ne tab, List.mem_singleton] at member
    exact tab member.symm

theorem sanitize_of_trimEnd (noTab : '\t' ∉ line) (trimmed : trimEnd line = line) :
    sanitize line = line := by
  rw [sanitize_eq, flatMap_untabbed_of_not_mem noTab, trimmed]

/-- A line that has been written once is written unchanged. -/
theorem sanitize_sanitize (line : List Char) : sanitize (sanitize line) = sanitize line := by
  apply sanitize_of_trimEnd
  · intro member
    exact tab_not_mem_flatMap_untabbed line ((List.rdropWhile_prefix isBlank _).subset member)
  · exact List.rdropWhile_idempotent isBlank _

/-- The spaces for a tab separate words as the tab does; by induction on the line, whose characters
go over to the front. -/
theorem words_append_untabbed (front line : List Char) :
    words (front ++ line.flatMap untabbed) = words (front ++ line) := by
  induction line generalizing front with
  | nil => rfl
  | cons c rest ih =>
      rw [List.flatMap_cons]
      by_cases tab : c = '\t'
      · subst tab
        have four : untabbed '\t' ++ rest.flatMap untabbed =
            ' ' :: ' ' :: ' ' :: ' ' :: rest.flatMap untabbed := rfl
        have alone := ih []
        rw [List.nil_append, List.nil_append] at alone
        rw [four, Text.words_append_cons (by decide), Text.words_cons (by decide),
          Text.words_cons (by decide), Text.words_cons (by decide),
          Text.words_append_cons (by decide), alone]
      · have moved := ih (front ++ [c])
        rw [List.append_assoc, List.append_assoc] at moved
        rw [untabbed_of_ne tab]
        exact moved

theorem words_sanitize (line : List Char) : words (sanitize line) = words line := by
  rw [sanitize_eq, Text.words_trimEnd]
  exact words_append_untabbed [] line

/-! ## The text of a line -/

/-- A line without the blanks around it and with four spaces for each tab. -/
def bare (line : List Char) : List Char :=
  trimStart (sanitize line)

theorem trimStart_flatMap_untabbed (line : List Char) :
    trimStart (line.flatMap untabbed) = (trimStart line).flatMap untabbed := by
  induction line with
  | nil => rfl
  | cons c rest ih =>
      rw [List.flatMap_cons]
      by_cases tab : c = '\t'
      · subst tab
        exact ih
      · rw [untabbed_of_ne tab, List.singleton_append, trimStart, trimStart]
        cases kind : isBlank c with
        | true =>
            rw [List.dropWhile_cons_of_pos kind, List.dropWhile_cons_of_pos kind]
            exact ih
        | false =>
            have visible : ¬ isBlank c = true := by simp [kind]
            rw [List.dropWhile_cons_of_neg visible, List.dropWhile_cons_of_neg visible,
              List.flatMap_cons, untabbed_of_ne tab]
            rfl

/-- It does not matter which blanks are taken away first. -/
theorem bare_eq (line : List Char) : bare line = sanitize (trimStart line) := by
  rw [bare, sanitize_eq, sanitize_eq, Text.trimStart_trimEnd, trimStart_flatMap_untabbed]

theorem words_bare (line : List Char) : words (bare line) = words line := by
  rw [bare, Text.words_trimStart, words_sanitize]

theorem bare_eq_nil_iff : bare line = [] ↔ words line = [] := by
  rw [← words_sanitize line, Text.words_eq_nil_iff]
  exact List.dropWhile_eq_nil_iff

/-- A mark at the start of a line without blanks in it is written as it is. -/
theorem isPrefix_sanitize_iff (visible : ∀ c ∈ mark, isBlank c = false) :
    mark <+: sanitize text ↔ mark <+: text := by
  have spaced : mark <+: text.flatMap untabbed → mark <+: text := by
    induction mark generalizing text with
    | nil => exact fun _ => List.nil_prefix
    | cons d mark ih =>
        obtain ⟨first, others⟩ := List.forall_mem_cons.mp visible
        cases text with
        | nil => exact id
        | cons c rest =>
            rw [List.flatMap_cons]
            by_cases tab : c = '\t'
            · subst tab
              intro start
              have space : d = ' ' := (List.cons_prefix_cons.mp start).1
              rw [space] at first
              exact absurd first (by decide)
            · rw [untabbed_of_ne tab, List.singleton_append, List.cons_prefix_cons,
                List.cons_prefix_cons]
              exact And.imp_right (ih others)
  constructor
  · intro start
    exact spaced (start.trans (List.rdropWhile_prefix isBlank _))
  · rintro ⟨rest, rfl⟩
    clear spaced
    induction mark with
    | nil => exact List.nil_prefix
    | cons d mark ih =>
        obtain ⟨first, others⟩ := List.forall_mem_cons.mp visible
        have noTab : d ≠ '\t' := by
          rintro rfl
          exact absurd first (by decide)
        have kept : sanitize (d :: mark ++ rest) = d :: sanitize (mark ++ rest) := by
          rw [sanitize_eq, List.cons_append, List.flatMap_cons, untabbed_of_ne noTab,
            List.singleton_append, trimEnd_cons, first, Bool.and_false,
            if_neg Bool.false_ne_true]
          rfl
        rw [kept, List.cons_prefix_cons]
        exact ⟨rfl, ih others⟩

/-! ## Fences and items -/

/-- Whether a line opens or closes a fenced block: behind blanks it starts with a fence. -/
def isFenceLine (line : List Char) : Bool :=
  isFence (trimStart line)

def isItemLine (line : List Char) : Bool :=
  isListItem (sanitize line)

theorem isFence_bare (line : List Char) : isFence (bare line) = isFenceLine line := by
  have visible : ∀ c ∈ ['\x60', '\x60', '\x60'], isBlank c = false := by
    intro c member
    obtain rfl : c = '\x60' := by simpa using member
    rfl
  rw [isFenceLine, isFence, isFence, Bool.eq_iff_iff, List.isPrefixOf_iff_prefix,
    List.isPrefixOf_iff_prefix, bare_eq, isPrefix_sanitize_iff visible]

theorem isListItem_bare (line : List Char) : isListItem (bare line) = isItemLine line := by
  have trimmed : trimStart (bare line) = trimStart (sanitize line) :=
    List.dropWhile_idempotent isBlank _
  rw [isItemLine, isListItem, isListItem, trimmed]

/-- A line that starts a list item is neither blank nor a fence. -/
theorem bare_of_isItemLine (item : isItemLine line = true) :
    bare line ≠ [] ∧ isFenceLine line = false := by
  rw [← isListItem_bare] at item
  constructor
  · intro empty
    rw [empty] at item
    exact absurd item (by decide)
  · rw [← isFence_bare, ← Bool.not_eq_true]
    intro fence
    obtain ⟨rest, same⟩ := List.isPrefixOf_iff_prefix.mp fence
    rw [← same] at item
    have mark : isListItem (['\x60', '\x60', '\x60'] ++ rest) = false := rfl
    rw [mark] at item
    cases item

/-! ## Fenced blocks -/

/-- Whether a fenced block is open behind the given lines: one of two lines with a fence opens a
block, the other one closes it. -/
def fenceOpen (lines : List (List Char)) : Bool :=
  lines.countP isFenceLine % 2 == 1

/-- What is written for a line as part of a fenced block: the opening line without the blanks around
it, the others with the blanks in front of them. -/
def fencedPart (inside : Bool) (line : List Char) : List (List Char) :=
  if inside then [sanitize line] else if isFenceLine line then [bare line] else []

def fencedLines (inside : Bool) : List (List Char) → List (List Char)
  | [] => []
  | line :: rest => fencedPart inside line ++ fencedLines (inside != isFenceLine line) rest

theorem fenceOpen_cons (line : List Char) (lines : List (List Char)) :
    fenceOpen (line :: lines) = (isFenceLine line != fenceOpen lines) := by
  rw [fenceOpen, fenceOpen, List.countP_cons]
  generalize lines.countP isFenceLine = count
  cases isFenceLine line with
  | false => simp
  | true =>
      rcases Nat.mod_two_eq_zero_or_one count with even | odd
      · have next : (count + 1) % 2 = 1 := by omega
        simp [even, next]
      · have next : (count + 1) % 2 = 0 := by omega
        simp [odd, next]

/-- A part of a fenced block is a line with the state of the fences in front of it. -/
theorem mem_fencedLines_iff {inside : Bool} :
    text ∈ fencedLines inside lines ↔ ∃ before line after, lines = before ++ line :: after ∧
      text ∈ fencedPart (inside != fenceOpen before) line := by
  induction lines generalizing inside with
  | nil => simp [fencedLines]
  | cons first rest ih =>
      have next (before : List (List Char)) :
          ((inside != isFenceLine first) != fenceOpen before) =
            (inside != fenceOpen (first :: before)) := by
        rw [fenceOpen_cons]
        cases inside <;> cases isFenceLine first <;> cases fenceOpen before <;> rfl
      rw [fencedLines, List.mem_append, ih]
      constructor
      · rintro (here | ⟨before, line, after, rfl, there⟩)
        · have start : (inside != fenceOpen []) = inside := Bool.bne_false inside
          exact ⟨[], first, rest, rfl, start.symm ▸ here⟩
        · exact ⟨first :: before, line, after, rfl, next before ▸ there⟩
      · rintro ⟨before, line, after, same, found⟩
        cases before with
        | nil =>
            obtain ⟨rfl, rfl⟩ := List.cons.inj same
            have start : (inside != fenceOpen []) = inside := Bool.bne_false inside
            exact .inl (start ▸ found)
        | cons other before =>
            obtain ⟨rfl, rfl⟩ := List.cons.inj same
            exact .inr ⟨before, line, after, rfl, (next before).symm ▸ found⟩

end OptionSchema.Comment
