import Mathlib.Data.List.TakeWhile
import OptionSchema.Evaluation.Command
import OptionSchema.Proofs.Text.Words

/-!
# The message in an error stream

The search for an error looks for the leftmost place that fits a pattern: at the start of a line,
blanks, which may go over several lines, and then the mark (`errorLine?_eq_some_iff`). It also goes
line by line: what it finds stands on the first line that has the mark behind blanks
(`errorLine?_eq_findSome?`). So the leftmost place lies on that line, wherever its blanks start
(`diagnostic_firstError`).
-/

namespace OptionSchema.Evaluation

open Text (isBlank trimEnd trimStart)

variable {text line back front blanks message : List Char} {atLineStart : Bool}

/-- What starts with the mark of an error has no blanks in front of it that could be taken away. -/
theorem trimStart_mark (blank : ∀ c ∈ blanks, isBlank c = true) (rest : List Char) :
    trimStart (blanks ++ (errorMark ++ rest)) = errorMark ++ rest := by
  rw [trimStart, List.dropWhile_append_of_pos blank]
  rfl

/-- A text consists of the blanks that it starts with and of what is left without them. -/
theorem exists_blanks_append_trimStart (text : List Char) :
    ∃ blanks, (∀ c ∈ blanks, isBlank c = true) ∧ text = blanks ++ trimStart text :=
  ⟨text.takeWhile isBlank, fun _ member => List.mem_takeWhile_imp member,
    List.takeWhile_append_dropWhile.symm⟩

/-! ## The leftmost place -/

/-- A place in a text where an error is: behind `front` a line starts, and there the mark stands
behind blanks and in front of a message, which goes on to the end of its line. The text itself starts
a line if `atLineStart` holds. -/
structure Fits (atLineStart : Bool) (text front blanks message : List Char) : Prop where
  start : front = [] ∧ atLineStart = true ∨ ∃ above, front = above ++ ['\n']
  blank : ∀ c ∈ blanks, isBlank c = true
  oneLine : '\n' ∉ message
  whole : ∃ back, (back = [] ∨ ∃ after, back = '\n' :: after) ∧
    text = front ++ (blanks ++ (errorMark ++ (message ++ back)))

/-- No place of a text that fits lies further to the left. -/
structure IsLeftmost (atLineStart : Bool) (text front blanks message : List Char) : Prop where
  fits : Fits atLineStart text front blanks message
  least : ∀ {front' blanks' message'}, Fits atLineStart text front' blanks' message' →
    front.length ≤ front'.length

theorem errorLine?_cons (c : Char) (rest : List Char) :
    errorLine? atLineStart (c :: rest) =
      if atLineStart = true ∧ errorMark <+: trimStart (c :: rest) then
        some (((trimStart (c :: rest)).drop errorMark.length).takeWhile (· != '\n'))
      else errorLine? (c == '\n') rest := by
  rw [errorLine?]
  simp only [Bool.and_eq_true, List.isPrefixOf_iff_prefix]

theorem takeWhile_message (oneLine : '\n' ∉ message)
    (stops : back = [] ∨ ∃ after, back = '\n' :: after) :
    (message ++ back).takeWhile (· != '\n') = message := by
  have inMessage : ∀ c ∈ message, (c != '\n') = true := by
    intro c member
    rw [bne_iff_ne]
    rintro rfl
    exact oneLine member
  rw [List.takeWhile_append_of_pos inMessage]
  rcases stops with rfl | ⟨after, rfl⟩ <;> simp

/-- What stands at the start of a text is found at once. -/
theorem Fits.errorLine?_eq (fits : Fits atLineStart text [] blanks message) :
    errorLine? atLineStart text = some message := by
  obtain ⟨start, blank, oneLine, back, stops, rfl⟩ := fits
  have started : atLineStart = true := by simpa using start
  rw [List.nil_append]
  have trimmed := trimStart_mark blank (message ++ back)
  generalize blanks ++ (errorMark ++ (message ++ back)) = text at trimmed ⊢
  cases text with
  | nil => cases trimmed
  | cons c rest =>
      rw [errorLine?_cons, trimmed, if_pos ⟨started, List.prefix_append ..⟩, List.drop_left,
        takeWhile_message oneLine stops]

/-- What stands at the start of a text is also reached over a blank line in front of it. -/
theorem Fits.over_blank (fits : Fits true text [] blanks message)
    (blank : ∀ c ∈ line, isBlank c = true) :
    Fits true (line ++ '\n' :: text) [] (line ++ '\n' :: blanks) message := by
  obtain ⟨-, blank', oneLine, back, stops, rfl⟩ := fits
  refine ⟨.inl ⟨rfl, rfl⟩, ?_, oneLine, back, stops, by simp⟩
  exact List.forall_mem_append.mpr ⟨blank, List.forall_mem_cons.mpr ⟨by decide, blank'⟩⟩

theorem exists_fits_nil_iff :
    (∃ blanks message, Fits atLineStart text [] blanks message) ↔
      atLineStart = true ∧ errorMark <+: trimStart text := by
  constructor
  · rintro ⟨blanks, message, start, blank, -, back, -, rfl⟩
    rw [List.nil_append, trimStart_mark blank]
    exact ⟨by simpa using start, List.prefix_append ..⟩
  · rintro ⟨started, more, starts⟩
    obtain ⟨blanks, blank, whole⟩ := exists_blanks_append_trimStart text
    obtain ⟨message, back, rfl, oneLine, stops⟩ := Text.exists_first_line more
    exact ⟨blanks, message, .inl ⟨rfl, started⟩, blank, oneLine, back, stops, starts ▸ whole⟩

theorem fits_cons_iff {c d : Char} :
    Fits atLineStart (c :: text) (d :: front) blanks message ↔
      d = c ∧ Fits (c == '\n') text front blanks message := by
  have start : (d :: front = [] ∧ atLineStart = true ∨ ∃ above, d :: front = above ++ ['\n']) ↔
      (front = [] ∧ (d == '\n') = true ∨ ∃ above, front = above ++ ['\n']) := by
    rw [or_iff_right (by simp)]
    constructor
    · rintro ⟨above, same⟩
      cases above with
      | nil =>
          obtain ⟨rfl, rfl⟩ := List.cons.inj same
          exact .inl ⟨rfl, rfl⟩
      | cons e above => exact .inr ⟨above, (List.cons.inj same).2⟩
    · rintro (⟨rfl, feed⟩ | ⟨above, rfl⟩)
      · exact ⟨[], by rw [eq_of_beq feed]; rfl⟩
      · exact ⟨d :: above, rfl⟩
  constructor
  · rintro ⟨starts, blank, oneLine, back, stops, whole⟩
    obtain ⟨rfl, others⟩ := List.cons.inj whole
    exact ⟨rfl, start.mp starts, blank, oneLine, back, stops, others⟩
  · rintro ⟨rfl, starts, blank, oneLine, back, stops, whole⟩
    exact ⟨start.mpr starts, blank, oneLine, back, stops, congrArg (d :: ·) whole⟩

/-- The search finds the message of the leftmost place that fits; by induction on the text, whose
places lie at its start or in the rest of it. -/
theorem errorLine?_eq_some_iff :
    errorLine? atLineStart text = some message ↔
      ∃ front blanks, IsLeftmost atLineStart text front blanks message := by
  induction text generalizing atLineStart with
  | nil =>
      refine iff_of_false nofun ?_
      rintro ⟨front, blanks, ⟨-, -, -, back, -, whole⟩, -⟩
      simp only [List.nil_eq, List.append_eq_nil_iff] at whole
      exact absurd whole.2.2.1 (by decide)
  | cons c text ih =>
      by_cases here : ∃ blanks message, Fits atLineStart (c :: text) [] blanks message
      · obtain ⟨blanks, found, fits⟩ := here
        constructor
        · intro isFound
          rw [fits.errorLine?_eq, Option.some.injEq] at isFound
          subst isFound
          exact ⟨[], blanks, fits, fun _ => Nat.zero_le _⟩
        · rintro ⟨front, blanks', leftmost⟩
          obtain rfl : front = [] := List.length_eq_zero_iff.mp (Nat.le_zero.mp (leftmost.least fits))
          exact leftmost.fits.errorLine?_eq
      · have later {front blanks message : List Char}
            (fits : Fits atLineStart (c :: text) front blanks message) :
            ∃ behind, front = c :: behind ∧ Fits (c == '\n') text behind blanks message := by
          cases front with
          | nil => exact absurd ⟨blanks, message, fits⟩ here
          | cons d behind =>
              obtain ⟨rfl, fitsBehind⟩ := fits_cons_iff.mp fits
              exact ⟨behind, rfl, fitsBehind⟩
        rw [errorLine?_cons, if_neg fun both => here (exists_fits_nil_iff.mpr both), ih]
        constructor
        · rintro ⟨front, blanks, fits, least⟩
          refine ⟨c :: front, blanks, fits_cons_iff.mpr ⟨rfl, fits⟩, fun other => ?_⟩
          obtain ⟨behind, rfl, fitsBehind⟩ := later other
          exact Nat.succ_le_succ (least fitsBehind)
        · rintro ⟨front, blanks, fits, least⟩
          obtain ⟨behind, rfl, fitsBehind⟩ := later fits
          exact ⟨behind, blanks, fitsBehind, fun other =>
            Nat.le_of_succ_le_succ (least (fits_cons_iff.mpr ⟨rfl, other⟩))⟩

/-! ## The search line by line -/

/-- A line with the mark of an error behind blanks, and a message behind the mark. -/
def IsErrorLine (line message : List Char) : Prop :=
  ∃ blanks, (∀ c ∈ blanks, isBlank c = true) ∧ line = blanks ++ (errorMark ++ message)

def lineMessage? (line : List Char) : Option (List Char) :=
  if errorMark <+: trimStart line then some ((trimStart line).drop errorMark.length) else none

theorem lineMessage?_eq_some_iff : lineMessage? line = some message ↔ IsErrorLine line message := by
  constructor
  · intro found
    rw [lineMessage?] at found
    split at found
    · next start =>
        obtain ⟨more, starts⟩ := start
        rw [← starts, List.drop_left, Option.some.injEq] at found
        subst found
        obtain ⟨blanks, blank, whole⟩ := exists_blanks_append_trimStart line
        exact ⟨blanks, blank, starts ▸ whole⟩
    · cases found
  · rintro ⟨blanks, blank, rfl⟩
    rw [lineMessage?, trimStart_mark blank, if_pos (List.prefix_append ..), List.drop_left]

theorem lineMessage?_eq_none_iff :
    lineMessage? line = none ↔ ∀ message, ¬ IsErrorLine line message := by
  simp only [← lineMessage?_eq_some_iff, Option.eq_none_iff_forall_ne_some, ne_eq]

/-- Unless the text starts with an error, nothing is found up to the end of its first line. -/
theorem errorLine?_skip (noFeed : '\n' ∉ line)
    (apart : atLineStart = true → ¬ errorMark <+: trimStart (line ++ back))
    (stops : back = [] ∨ ∃ after, back = '\n' :: after) :
    errorLine? atLineStart (line ++ back) = errorLine? false back := by
  induction line generalizing atLineStart with
  | nil =>
      rcases stops with rfl | ⟨after, rfl⟩
      · rfl
      · rw [List.nil_append, errorLine?_cons, if_neg fun both => apart both.1 both.2]
        rfl
  | cons c line ih =>
      rw [List.mem_cons, not_or] at noFeed
      have other : (c == '\n') = false := beq_eq_false_iff_ne.mpr (Ne.symm noFeed.1)
      rw [List.cons_append, errorLine?_cons, if_neg fun both => apart both.1 both.2, other]
      exact ih noFeed.2 nofun

/-- At the start of a line the search finds the message of that line, or it goes on behind the line.
If it reaches over blank lines, it finds what it would find behind them. -/
theorem errorLine?_line (noFeed : '\n' ∉ line)
    (stops : back = [] ∨ ∃ after, back = '\n' :: after) :
    errorLine? true (line ++ back) = (lineMessage? line).or (errorLine? false back) := by
  cases found : lineMessage? line with
  | some message =>
      obtain ⟨blanks, blank, rfl⟩ := lineMessage?_eq_some_iff.mp found
      have oneLine : '\n' ∉ message := fun member => noFeed (by simp [member])
      exact (Fits.mk (.inl ⟨rfl, rfl⟩) blank oneLine ⟨back, stops, by simp⟩).errorLine?_eq
  | none =>
      rw [Option.none_or]
      by_cases start : errorMark <+: trimStart (line ++ back)
      · rw [trimStart, List.dropWhile_append] at start
        split at start
        · next blank =>
            -- the mark stands behind the line, which is blank
            rcases stops with rfl | ⟨rest, rfl⟩
            · cases List.prefix_nil.mp start
            · have behind : errorMark <+: trimStart rest := start
              obtain ⟨blanks, message, fits⟩ := exists_fits_nil_iff.mpr ⟨rfl, behind⟩
              rw [(fits.over_blank (by simpa using blank)).errorLine?_eq]
              exact fits.errorLine?_eq.symm
        · have inLine : errorMark <+: trimStart line :=
            (Text.isPrefix_of_isPrefix_append (by decide) stops).mp start
          rw [lineMessage?, if_pos inLine] at found
          cases found
      · exact errorLine?_skip noFeed (fun _ => start) stops

/-- The search finds the message of the first line that has an error. -/
theorem errorLine?_eq_findSome? (text : List Char) :
    errorLine? true text = (text.splitOn '\n').findSome? lineMessage? := by
  induction text using Text.line_induction with
  | last line apart =>
      have alone := errorLine?_line apart (.inl rfl)
      rw [List.append_nil] at alone
      rw [List.splitOn_eq_singleton apart, List.findSome?_singleton, alone]
      exact Option.or_none
  | next line rest apart ih =>
      rw [List.splitOn_append_cons_self_of_not_mem apart, List.findSome?_cons, ← ih,
        errorLine?_line apart (.inr ⟨rest, rfl⟩)]
      cases lineMessage? line <;> rfl

/-- The message is that of the first line of a text that has an error. -/
def FirstError (text message : List Char) : Prop :=
  ∃ before line after, text.splitOn '\n' = before ++ line :: after ∧
    (∀ other ∈ before, ∀ message, ¬ IsErrorLine other message) ∧ IsErrorLine line message

theorem findSome?_lineMessage?_eq_some_iff :
    (text.splitOn '\n').findSome? lineMessage? = some message ↔ FirstError text message := by
  rw [List.findSome?_eq_some_iff]
  simp only [lineMessage?_eq_some_iff, lineMessage?_eq_none_iff, FirstError]
  simp only [and_comm]

/-- The diagnostic is what follows the mark on the first line that has it behind blanks only, and all of
the stream if there is no such line, both without the blanks at the end. The leftmost place that fits
the pattern lies on this line, even if its blanks start on a line above. -/
theorem diagnostic_firstError (stream : List Char) :
    (∀ message, FirstError stream message → diagnostic stream = trimEnd message) ∧
      ((∀ line ∈ stream.splitOn '\n', ∀ message, ¬ IsErrorLine line message) →
        diagnostic stream = trimEnd stream) ∧
      ∀ message, (∃ front blanks, IsLeftmost true stream front blanks message) ↔
        FirstError stream message := by
  refine ⟨fun message isFirst => ?_, fun none => ?_, fun message => ?_⟩
  · rw [diagnostic, errorLine?_eq_findSome?, findSome?_lineMessage?_eq_some_iff.mpr isFirst,
      Option.getD_some]
  · have nothing : (stream.splitOn '\n').findSome? lineMessage? = Option.none :=
      List.findSome?_eq_none_iff.mpr fun line isLine => lineMessage?_eq_none_iff.mpr (none line isLine)
    rw [diagnostic, errorLine?_eq_findSome?, nothing, Option.getD_none]
  · rw [← errorLine?_eq_some_iff, errorLine?_eq_findSome?, findSome?_lineMessage?_eq_some_iff]

/-- A stream with a mark within a line, and two errors behind a blank line. -/
def tracedStream : List Char :=
  "trace: error: x\n \r\n\t error: not a set \r\n error: y".toList

theorem diagnostic_firstError_tracedStream :
    FirstError tracedStream "not a set \r".toList ∧
      diagnostic tracedStream = "not a set".toList ∧
      (∃ front blanks, IsLeftmost true tracedStream front blanks "not a set \r".toList) ∧
      diagnostic "killed\n".toList = "killed".toList := by
  have isFirst : FirstError tracedStream "not a set \r".toList :=
    findSome?_lineMessage?_eq_some_iff.mp (by decide)
  have none : ∀ line ∈ "killed\n".toList.splitOn '\n', ∀ message, ¬ IsErrorLine line message := by
    simp only [← lineMessage?_eq_none_iff]
    decide
  obtain ⟨first, -, place⟩ := diagnostic_firstError tracedStream
  obtain ⟨-, all, -⟩ := diagnostic_firstError "killed\n".toList
  exact ⟨isFirst, first _ isFirst, (place _).mpr isFirst, all none⟩

end OptionSchema.Evaluation
