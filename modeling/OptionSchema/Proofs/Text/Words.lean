import Mathlib.Data.List.DropRight
import OptionSchema.Proofs.Text.Piece

/-!
# Words and lines

Blanks separate words and nothing else. So a text keeps its words when blanks around it are taken
away (`words_trimStart`, `words_trimEnd`), and when it is divided into lines (`flatMap_words_lines`).
A text is one line, or a line, a line feed and a text (`line_induction`). What line feeds separate
starts with the text or behind a line feed (`exists_of_mem_splitOn`).
-/

namespace OptionSchema.Text

variable {c : Char} {text front back word : List Char} {row : List (List Char)}

/-! ## Words -/

theorem words_append_cons (blank : isBlank c = true) :
    words (front ++ c :: back) = words front ++ words back :=
  runs_append_cons blank

theorem words_cons (blank : isBlank c = true) : words (c :: text) = words text :=
  runs_cons blank

theorem hasRuns_words (text : List Char) : HasRuns isBlank (words text) text :=
  runs_eq_iff.mp rfl

/-- A word has characters, and none of them is blank. -/
theorem forall_mem_words (text : List Char) :
    ∀ word ∈ words text, word ≠ [] ∧ ∀ c ∈ word, isBlank c = false :=
  (hasRuns_words text).forall_mem

theorem words_eq_nil_iff : words text = [] ↔ ∀ c ∈ text, isBlank c = true := by
  have flatten := (hasRuns_words text).flatten_eq
  constructor
  · intro none c member
    rw [none, List.flatten_nil, eq_comm, List.filter_eq_nil_iff] at flatten
    simpa using flatten c member
  · intro blank
    have nothing : text.filter (fun c => !isBlank c) = [] :=
      List.filter_eq_nil_iff.mpr fun c member => by simp [blank c member]
    rw [nothing, List.flatten_eq_nil_iff] at flatten
    rw [List.eq_nil_iff_forall_not_mem]
    intro word member
    exact (forall_mem_words text word member).1 (flatten word member)

theorem words_append_of_blank (blank : ∀ c ∈ back, isBlank c = true) :
    words (front ++ back) = words front := by
  cases back with
  | nil => rw [List.append_nil]
  | cons c back =>
      obtain ⟨first, others⟩ := List.forall_mem_cons.mp blank
      rw [words_append_cons first, words_eq_nil_iff.mpr others, List.append_nil]

/-- Words with a blank between each two of them are the words of what they make up. -/
theorem words_intercalate (blank : isBlank c = true)
    (each : ∀ word ∈ row, word ≠ [] ∧ ∀ d ∈ word, isBlank d = false) :
    words ([c].intercalate row) = row :=
  (hasRuns_intercalate blank each).runs_eq

/-! ## Blanks around a text -/

theorem trimEnd_eq_rdropWhile (text : List Char) : trimEnd text = text.rdropWhile isBlank :=
  rfl

/-- The first item stays unless none behind it does. -/
theorem rdropWhile_cons {α : Type} (p : α → Bool) (first : α) (rest : List α) :
    (first :: rest).rdropWhile p =
      if (rest.rdropWhile p).isEmpty && p first then [] else first :: rest.rdropWhile p := by
  rw [List.rdropWhile, List.rdropWhile, List.reverse_cons, List.dropWhile_append,
    List.isEmpty_reverse]
  cases ends : (rest.reverse.dropWhile p).isEmpty with
  | false => rw [if_neg Bool.false_ne_true, List.reverse_append]; rfl
  | true =>
      rw [List.isEmpty_iff.mp ends]
      cases kind : p first with
      | true => simp [kind]
      | false => simp [kind]

theorem trimEnd_cons (c : Char) (text : List Char) :
    trimEnd (c :: text) =
      if (trimEnd text).isEmpty && isBlank c then [] else c :: trimEnd text :=
  rdropWhile_cons isBlank c text

/-- Blanks at both ends can be taken away in any order. -/
theorem trimStart_trimEnd (text : List Char) : trimStart (trimEnd text) = trimEnd (trimStart text) := by
  induction text with
  | nil => rfl
  | cons c rest ih =>
      rw [trimEnd_cons]
      cases kind : isBlank c with
      | true =>
          rw [trimStart, trimStart, List.dropWhile_cons_of_pos kind]
          cases ends : (trimEnd rest).isEmpty with
          | true =>
              rw [trimStart, List.isEmpty_iff.mp ends, trimStart] at ih
              exact ih
          | false =>
              rw [Bool.false_and, if_neg Bool.false_ne_true, List.dropWhile_cons_of_pos kind]
              exact ih
      | false =>
          have visible : ¬ isBlank c = true := by simp [kind]
          rw [Bool.and_false, if_neg Bool.false_ne_true, trimStart, trimStart,
            List.dropWhile_cons_of_neg visible, List.dropWhile_cons_of_neg visible, trimEnd_cons,
            kind, Bool.and_false, if_neg Bool.false_ne_true]

theorem words_trimStart (text : List Char) : words (trimStart text) = words text := by
  induction text with
  | nil => rfl
  | cons c rest ih =>
      cases kind : isBlank c with
      | true => rw [words_cons kind, ← ih, trimStart, List.dropWhile_cons_of_pos kind]; rfl
      | false => rw [trimStart, List.dropWhile_cons_of_neg (by simp [kind])]

theorem words_trimEnd (text : List Char) : words (trimEnd text) = words text := by
  have blank : ∀ c ∈ text.rtakeWhile isBlank, isBlank c = true := by
    intro c member
    exact List.mem_rtakeWhile_imp member
  have whole : trimEnd text ++ text.rtakeWhile isBlank = text :=
    List.rdropWhile_append_rtakeWhile
  rw [← words_append_of_blank blank, whole]

/-! ## Lines -/

theorem lines_cons (c : Char) (rest : List Char) : lines (c :: rest) ≠ [] := by
  rw [lines.eq_def]
  split
  · contradiction
  · exact List.cons_ne_nil _ _
  · exact List.cons_ne_nil _ _
  · split <;> exact List.cons_ne_nil _ _

/-- A character that ends no line goes to the first line of the text behind it. -/
theorem lines_cons_of_ne {c : Char} (notFeed : c ≠ '\n') (inside : c = '\r' → text.head? ≠ some '\n') :
    lines (c :: text) =
      match lines text with
      | [] => [[c]]
      | line :: others => (c :: line) :: others := by
  rw [lines.eq_def]
  split
  · next same => cases same
  · next same => exact absurd (List.cons.inj same).1 notFeed
  · next same =>
      obtain ⟨carriage, rfl⟩ := List.cons.inj same
      exact absurd rfl (inside carriage)
  · next same =>
      obtain ⟨rfl, rfl⟩ := List.cons.inj same
      rfl

/-- If the first line of a text can go on from any text in front of it, then it can stand alone. -/
theorem words_eq_flatMap_lines
    (goesOn : ∀ line others, lines text = line :: others →
      ∀ front, words (front ++ text) = words (front ++ line) ++ others.flatMap words) :
    words text = (lines text).flatMap words := by
  cases text with
  | nil => rfl
  | cons c rest =>
      obtain ⟨line, others, divided⟩ := List.exists_cons_of_ne_nil (lines_cons c rest)
      rw [divided]
      exact goesOn line others divided []

/-- By induction on the text, whose characters go over to the front until the line ends. -/
theorem words_append_of_lines (line : List Char) (others : List (List Char))
    (divided : lines text = line :: others) (front : List Char) :
    words (front ++ text) = words (front ++ line) ++ others.flatMap words := by
  fun_induction lines text generalizing front line others with
  | case1 => cases divided
  | case2 rest ih =>
      cases divided
      rw [words_append_cons (by decide), List.append_nil, words_eq_flatMap_lines ih]
  | case3 rest ih =>
      cases divided
      rw [words_append_cons (by decide), words_cons (by decide), List.append_nil,
        words_eq_flatMap_lines ih]
  | case4 c rest _ _ none ih =>
      cases divided
      cases rest with
      | nil => rw [List.flatMap_nil, List.append_nil]
      | cons d rest => exact absurd none (lines_cons d rest)
  | case5 c rest _ _ line lines some ih =>
      cases divided
      have moved := ih line lines some (front ++ [c])
      rw [List.append_assoc, List.append_assoc] at moved
      exact moved

theorem flatMap_words_lines (text : List Char) : (lines text).flatMap words = words text :=
  (words_eq_flatMap_lines words_append_of_lines).symm

/-- No line has a line feed in it. -/
theorem lineFeed_not_mem_lines (text : List Char) : ∀ line ∈ lines text, '\n' ∉ line := by
  fun_induction lines text with
  | case1 => exact List.forall_mem_nil _
  | case2 rest ih => exact List.forall_mem_cons.mpr ⟨List.not_mem_nil, ih⟩
  | case3 rest ih => exact List.forall_mem_cons.mpr ⟨List.not_mem_nil, ih⟩
  | case4 c rest feed _ none ih =>
      rw [List.forall_mem_singleton, List.mem_singleton]
      exact fun same => feed same.symm
  | case5 c rest feed _ line lines some ih =>
      rw [some, List.forall_mem_cons] at ih
      rw [List.forall_mem_cons, List.mem_cons, not_or]
      exact ⟨⟨fun same => feed same.symm, ih.1⟩, ih.2⟩

/-! ## Lines between line feeds -/

section

variable {mark line : List Char}

/-- What holds of a text without line feeds, and of a text if it holds of what stands behind its first
line, holds of all texts. -/
@[elab_as_elim]
theorem line_induction {motive : List Char → Prop} (last : ∀ line, '\n' ∉ line → motive line)
    (next : ∀ line rest, '\n' ∉ line → motive rest → motive (line ++ '\n' :: rest))
    (text : List Char) : motive text := by
  induction size : text.length using Nat.strongRecOn generalizing text with
  | ind _ ih =>
      by_cases feed : '\n' ∈ text
      · obtain ⟨line, rest, rfl, apart⟩ := List.eq_append_cons_of_mem feed
        have shorter : rest.length < (line ++ '\n' :: rest).length := by
          simp only [List.length_append, List.length_cons]
          omega
        exact next line rest apart (ih _ (size ▸ shorter) rest rfl)
      · exact last text feed

/-- A text starts with a line that ends with the text or at a line feed. -/
theorem exists_first_line (text : List Char) :
    ∃ line rest, text = line ++ rest ∧ '\n' ∉ line ∧ (rest = [] ∨ ∃ after, rest = '\n' :: after) := by
  induction text using line_induction with
  | last line apart => exact ⟨line, [], (List.append_nil line).symm, apart, .inl rfl⟩
  | next line rest apart _ => exact ⟨line, _, rfl, apart, .inr ⟨rest, rfl⟩⟩

/-- A mark at the start of a text ends before a character that it does not have. -/
theorem isPrefix_of_isPrefix_append {c : Char} (apart : c ∉ mark) {rest : List Char}
    (stops : rest = [] ∨ ∃ after, rest = c :: after) :
    mark <+: text ++ rest ↔ mark <+: text := by
  refine ⟨fun start => ?_, List.prefix_append_of_prefix⟩
  rcases List.prefix_or_prefix_of_prefix start (List.prefix_append text rest) with
    inside | ⟨more, rfl⟩
  · exact inside
  · have tail := (List.prefix_append_right_inj text).mp start
    cases more with
    | nil => exact ⟨[], by simp⟩
    | cons first others =>
        rcases stops with rfl | ⟨after, rfl⟩
        · cases List.prefix_nil.mp tail
        · have same : first = c := (List.cons_prefix_cons.mp tail).1
          exact absurd (List.mem_append_right _ (same ▸ List.mem_cons_self ..)) apart

/-- A line starts with the text or behind a line feed, and ends with the text or at a line feed. -/
theorem exists_of_mem_splitOn (isLine : line ∈ text.splitOn '\n') :
    ∃ rest, (rest = [] ∨ ∃ after, rest = '\n' :: after) ∧
      (text = line ++ rest ∨ ∃ before, text = before ++ '\n' :: (line ++ rest)) := by
  induction text using line_induction with
  | last first apart =>
      rw [List.splitOn_eq_singleton apart, List.mem_singleton] at isLine
      subst isLine
      exact ⟨[], .inl rfl, .inl (List.append_nil _).symm⟩
  | next first others apart ih =>
      rw [List.splitOn_append_cons_self_of_not_mem apart, List.mem_cons] at isLine
      rcases isLine with rfl | later
      · exact ⟨_, .inr ⟨others, rfl⟩, .inl rfl⟩
      · obtain ⟨rest, stops, rfl | ⟨before, rfl⟩⟩ := ih later
        · exact ⟨rest, stops, .inr ⟨first, rfl⟩⟩
        · exact ⟨rest, stops, .inr ⟨first ++ '\n' :: before, by simp⟩⟩

theorem exists_mem_splitOn_isPrefix (text : List Char) : ∃ line ∈ text.splitOn '\n', line <+: text := by
  induction text using line_induction with
  | last line apart =>
      rw [List.splitOn_eq_singleton apart]
      exact ⟨line, List.mem_singleton.mpr rfl, List.prefix_rfl⟩
  | next line rest apart _ =>
      rw [List.splitOn_append_cons_self_of_not_mem apart]
      exact ⟨line, List.mem_cons_self .., List.prefix_append ..⟩

theorem splitOn_eq_singleton_iff : text.splitOn '\n' = [text] ↔ '\n' ∉ text := by
  refine ⟨fun alone feed => ?_, List.splitOn_eq_singleton⟩
  obtain ⟨line, rest, rfl, apart⟩ := List.eq_append_cons_of_mem feed
  rw [List.splitOn_append_cons_self_of_not_mem apart, List.cons.injEq] at alone
  exact apart (alone.1 ▸ feed)

end

end OptionSchema.Text
