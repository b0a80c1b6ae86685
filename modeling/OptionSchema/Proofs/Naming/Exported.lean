import Mathlib.Data.Bool.AllAny
import OptionSchema.Naming.Identifier
import OptionSchema.Proofs.Naming.Words
import OptionSchema.Proofs.Text.Piece

/-!
# The characters of exported names

An exported name is made of the letters and numbers of the name it renders, of their capital forms,
and of what overrides put in their place (`Rules.forall_mem_exported`). So it has no line feed unless
an override brings it, whatever the name has (`Rules.lineFeed_not_mem_exported`), nor have the
identifiers made of it.
-/

namespace OptionSchema

namespace Text

/-! ## Capital forms -/

/-- What is decided for every code below 128 holds of every ASCII character. -/
theorem of_isAscii {p : Char → Prop} (all : ∀ code < 128, p (Char.ofNat code)) {c : Char}
    (ascii : isAscii c = true) : p c :=
  Char.ofNat_toNat c ▸ all c.toNat (of_decide_eq_true ascii)

theorem toUpper_ne_lineFeed {c : Char} (ascii : isAscii c = true) :
    c ≠ '\n' → c.toUpper ≠ '\n' :=
  of_isAscii (p := fun c => c ≠ '\n' → c.toUpper ≠ '\n') (by decide) ascii

theorem toLower_ne_lineFeed {c : Char} (ascii : isAscii c = true) :
    c ≠ '\n' → c.toLower ≠ '\n' :=
  of_isAscii (p := fun c => c ≠ '\n' → c.toLower ≠ '\n') (by decide) ascii

/-- No character is moved down to the line feed by shifts that stay above it. -/
theorem shifted?_ne_lineFeed {shifts : List Shift}
    (above : ∀ shift ∈ shifts, 10 < (shift.span.first : Int) + shift.distance) (c : Char) :
    shifted? shifts c ≠ some '\n' := by
  intro found
  obtain ⟨shift, isShift, moved⟩ := Option.map_eq_some_iff.mp found
  have far := above shift (List.mem_of_find?_eq_some isShift)
  have contained := List.find?_some isShift
  simp only [Span.contains, Bool.and_eq_true, decide_eq_true_eq] at contained
  by_cases valid : ((c.toNat : Int) + shift.distance).toNat.isValidChar
  · rw [Char.ofNat, dif_pos valid] at moved
    have code : ((c.toNat : Int) + shift.distance).toNat = 10 := congrArg Char.toNat moved
    omega
  · rw [Char.ofNat, dif_neg valid] at moved
    exact absurd moved (by decide)

/-- A form by tables has no line feed if no entry of them has. -/
theorem lineFeed_not_mem_form {c : Char} (apart : c ≠ '\n') {sequences : List (Nat × List Nat)}
    {shifts : List Shift} (apart' : ∀ entry ∈ sequences, '\n' ∉ entry.2.map Char.ofNat)
    (above : ∀ shift ∈ shifts, 10 < (shift.span.first : Int) + shift.distance) :
    '\n' ∉ match sequences.lookup c.toNat with
      | some codes => codes.map Char.ofNat
      | none => [(shifted? shifts c).getD c] := by
  split
  · next codes found =>
      obtain ⟨before, after, table, -⟩ := List.lookup_eq_some_iff.mp found
      exact apart' (c.toNat, codes) (table ▸ List.mem_append_cons_self)
  · rw [List.mem_singleton]
    cases shifted : shifted? shifts c with
    | none => exact apart.symm
    | some form => exact fun same =>
        shifted?_ne_lineFeed above c (shifted.trans (congrArg some same.symm))

theorem lineFeed_not_mem_capitalForm {c : Char} (apart : c ≠ '\n') : '\n' ∉ capitalForm c := by
  rw [capitalForm]
  split
  · next ascii =>
      exact fun member => toUpper_ne_lineFeed ascii apart (List.mem_singleton.mp member).symm
  · exact lineFeed_not_mem_form apart (by decide +kernel) (by decide +kernel)

theorem lineFeed_not_mem_smallForm {c : Char} (apart : c ≠ '\n') : '\n' ∉ smallForm c := by
  rw [smallForm]
  split
  · next ascii =>
      exact fun member => toLower_ne_lineFeed ascii apart (List.mem_singleton.mp member).symm
  · exact lineFeed_not_mem_form apart (by decide +kernel) (by decide +kernel)

end Text

namespace Naming

open Text (isAlphanumeric capitalForm capitalText)

variable {p : Char → Prop}

/-! ## Rendered names -/

theorem Rules.forall_mem_renderWord (rules : Rules) {word : List Char}
    (kept : ∀ c ∈ word, p c ∧ ∀ d ∈ capitalForm c, p d) : ∀ c ∈ rules.renderWord word, p c := by
  rw [renderWord]
  split
  · exact List.forall_mem_flatMap.mpr fun c member => (kept c member).2
  · cases word with
    | nil => exact List.forall_mem_nil _
    | cons first rest =>
        rw [List.forall_mem_cons] at kept
        exact List.forall_mem_append.mpr ⟨kept.1.2, fun c member => (kept.2 c member).1⟩

theorem Rules.forall_mem_joined (rules : Rules) {name : List Char}
    (kept : ∀ c ∈ name, isAlphanumeric c = true → p c ∧ ∀ d ∈ capitalForm c, p d) :
    ∀ c ∈ rules.joined name, p c := by
  rw [joined_eq, List.forall_mem_flatMap]
  exact fun word isWord => rules.forall_mem_renderWord (forall_mem_splitWords kept word isWord)

theorem Rules.exported_eq {rules : Rules} (plain : rules.overrides = []) (name : String) :
    rules.exported name = String.ofList (startIdentifier (rules.joined name.toList)) := by
  rw [exported, overridden, plain, List.foldl_nil]

theorem startIdentifier_cons (c : Char) (rest : List Char) :
    startIdentifier (c :: rest) = if c.isDigit then '_' :: c :: rest else c :: rest :=
  rfl

/-- What holds of a text and of all replacements holds of what the overrides make of the text. -/
theorem Rules.forall_mem_overridden {rules : Rules} {target : List Char}
    (brought : ∀ entry ∈ rules.overrides, ∀ c ∈ entry.2.toList, p c) (kept : ∀ c ∈ target, p c) :
    ∀ c ∈ rules.overridden target, p c := by
  rw [overridden]
  generalize rules.overrides = overrides at brought
  induction overrides generalizing target with
  | nil => exact kept
  | cons entry rest ih =>
      rw [List.forall_mem_cons] at brought
      exact ih (Text.forall_mem_replaceAll kept brought.1) brought.2

/-- An exported name is made of the letters and numbers of the name it renders, of their capital
forms and of replacements, but for the name of an empty rendering and an underscore in front of a
digit. -/
theorem Rules.forall_mem_exported {rules : Rules} {name : String}
    (brought : ∀ entry ∈ rules.overrides, ∀ c ∈ entry.2.toList, p c)
    (unnamed : ∀ c ∈ "Unnamed".toList, p c) (underscore : p '_')
    (kept : ∀ c ∈ name.toList, isAlphanumeric c = true → p c ∧ ∀ d ∈ capitalForm c, p d) :
    ∀ c ∈ (rules.exported name).toList, p c := by
  have overridden := forall_mem_overridden brought (rules.forall_mem_joined kept)
  rw [exported, String.toList_ofList]
  cases rendered : rules.overridden (rules.joined name.toList) with
  | nil => exact unnamed
  | cons first rest =>
      rw [rendered] at overridden
      rw [startIdentifier_cons]
      split
      · exact List.forall_mem_cons.mpr ⟨underscore, overridden⟩
      · exact overridden

theorem forall_mem_typeIdentifier {target : String} (underscore : p '_')
    (kept : ∀ c ∈ target.toList, p c) : ∀ c ∈ (typeIdentifier target).toList, p c := by
  rw [typeIdentifier]
  split
  · rw [String.toList_append, List.forall_mem_append]
    exact ⟨kept, List.forall_mem_singleton.mpr underscore⟩
  · exact kept

theorem lineFeed_not_mem_typeIdentifier {target : String} (apart : '\n' ∉ target.toList) :
    '\n' ∉ (typeIdentifier target).toList :=
  fun member => forall_mem_typeIdentifier (p := (· ≠ '\n')) (by decide)
    (fun _ kept same => apart (same ▸ kept)) _ member rfl

def Rules.KeepsLines (rules : Rules) : Prop :=
  ∀ entry ∈ rules.overrides, '\n' ∉ entry.2.toList

theorem Rules.keepsLines_of_plain {rules : Rules} (plain : rules.overrides = []) :
    rules.KeepsLines := by
  rw [KeepsLines, plain]
  exact List.forall_mem_nil _

/-- No line feed gets into an exported name but by an override. -/
theorem Rules.lineFeed_not_mem_exported {rules : Rules} (keeps : rules.KeepsLines)
    (name : String) : '\n' ∉ (rules.exported name).toList := by
  have kept : ∀ c ∈ name.toList, isAlphanumeric c = true →
      c ≠ '\n' ∧ ∀ d ∈ capitalForm c, d ≠ '\n' := by
    intro c _ alphanumeric
    have apart : c ≠ '\n' := by
      rintro rfl
      revert alphanumeric
      decide
    refine ⟨apart, fun d member => ?_⟩
    · rintro rfl
      exact Text.lineFeed_not_mem_capitalForm apart member
  have unnamed : ∀ c ∈ "Unnamed".toList, c ≠ '\n' := List.all_iff_forall_prop.mp (by decide)
  have brought : ∀ entry ∈ rules.overrides, ∀ c ∈ entry.2.toList, c ≠ '\n' :=
    fun entry member c isChar same => keeps entry member (same ▸ isChar)
  exact fun member => forall_mem_exported brought unnamed (by decide) kept _ member rfl

theorem lineFeed_not_mem_snakeCaseAfter {text : List Char} (previous : Char) (apart : '\n' ∉ text) :
    '\n' ∉ snakeCaseAfter previous text := by
  induction text generalizing previous with
  | nil => exact apart
  | cons c rest ih =>
      rw [List.mem_cons, not_or] at apart
      have joint : '\n' ∉ if startsWord previous c rest.head? then ['_'] else [] := by
        split <;> decide
      rw [snakeCaseAfter, List.mem_append, List.mem_append, not_or, not_or]
      exact ⟨⟨joint, Text.lineFeed_not_mem_smallForm (Ne.symm apart.1)⟩, ih c apart.2⟩

theorem lineFeed_not_mem_snakeCase {text : List Char} (apart : '\n' ∉ text) :
    '\n' ∉ snakeCase text := by
  cases text with
  | nil => exact apart
  | cons c rest =>
      rw [List.mem_cons, not_or] at apart
      rw [snakeCase, List.mem_append, not_or]
      exact ⟨Text.lineFeed_not_mem_smallForm (Ne.symm apart.1),
        lineFeed_not_mem_snakeCaseAfter c apart.2⟩

theorem lineFeed_not_mem_fieldIdentifier {target : String} (apart : '\n' ∉ target.toList) :
    '\n' ∉ (fieldIdentifier target).toList := by
  have snake : '\n' ∉ (String.ofList (snakeCase target.toList)).toList := by
    rw [String.toList_ofList]
    exact lineFeed_not_mem_snakeCase apart
  rw [fieldIdentifier, escapeKeyword]
  split
  · rw [String.toList_append, List.mem_append, not_or]
    exact ⟨snake, by decide⟩
  · split
    · rw [String.toList_append, List.mem_append, not_or]
      exact ⟨by decide, snake⟩
    · exact snake

end Naming

end OptionSchema
