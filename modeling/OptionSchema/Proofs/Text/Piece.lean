import Mathlib.Data.List.Basic
import OptionSchema.Text.Piece

/-!
# Pieces, runs and replacements

Cutting a text is splitting it (`cut_eq_splitOnP`). The pieces that are not empty are the maximal
runs of items that do not separate. Main statement: `runs_eq_iff`. A text has certain runs exactly
if it consists of them, one behind the other, with separating items in front of them, between each
two of them and behind them (`HasRuns`). A part of a text is replaced where it starts
(`replaceFrom_part`); replacing brings in no character that is neither in the text nor in the
replacement (`forall_mem_replaceAll`).
-/

namespace OptionSchema.Text

section

variable {α : Type} {separates : α → Bool} {c : α} {text first second part : List α}
  {parts : List (List α)}

/-! ## Pieces -/

theorem cut_eq_splitOnP (separates : α → Bool) (text : List α) :
    cut separates text = text.splitOnP separates := by
  induction text with
  | nil => rfl
  | cons c rest ih =>
      rw [cut, List.splitOnP_cons_eq_if_modifyHead, ih]
      cases pieces : rest.splitOnP separates with
      | nil => exact absurd pieces (List.splitOnP_ne_nil separates rest)
      | cons piece others => rfl

theorem cut_append_cons (isSeparator : separates c = true) :
    cut separates (first ++ c :: second) = cut separates first ++ cut separates second := by
  simp only [cut_eq_splitOnP, List.splitOnP_append_cons first second isSeparator]

theorem cut_eq_singleton (never : ∀ c ∈ text, separates c = false) :
    cut separates text = [text] := by
  rw [cut_eq_splitOnP, List.splitOnP_eq_singleton never]

/-- There is a piece of every text. -/
theorem exists_cut_eq_cons (separates : α → Bool) (text : List α) :
    ∃ piece others, cut separates text = piece :: others := by
  rw [cut_eq_splitOnP]
  exact List.exists_cons_of_ne_nil (List.splitOnP_ne_nil separates text)

/-- No piece has a separator in it. -/
theorem forall_mem_cut (separates : α → Bool) (text : List α) :
    ∀ piece ∈ cut separates text, ∀ c ∈ piece, separates c = false := by
  induction text with
  | nil => exact List.forall_mem_singleton.mpr (List.forall_mem_nil _)
  | cons c rest ih =>
      cases kind : separates c with
      | true =>
          rw [cut, if_pos kind]
          exact List.forall_mem_cons.mpr ⟨List.forall_mem_nil _, ih⟩
      | false =>
          obtain ⟨piece, others, pieces⟩ := exists_cut_eq_cons separates rest
          rw [pieces, List.forall_mem_cons] at ih
          rw [cut, if_neg (by simp [kind]), pieces]
          exact List.forall_mem_cons.mpr ⟨List.forall_mem_cons.mpr ⟨kind, ih.1⟩, ih.2⟩

/-- Items with a separator in front of each but the first one. -/
theorem append_flatMap_eq_intercalate (separator : α) (first : List α) (items : List (List α)) :
    first ++ items.flatMap (separator :: ·) = [separator].intercalate (first :: items) := by
  induction items generalizing first with
  | nil => simp
  | cons item rest ih =>
      rw [List.intercalate_cons_cons, ← ih, List.flatMap_cons]
      simp

/-- A character that does not separate is in a row exactly if it is in one of the items. -/
theorem not_mem_intercalate_iff {separator : String} {items : List String} {c : Char}
    (apart : c ∉ separator.toList) :
    c ∉ (separator.intercalate items).toList ↔ ∀ item ∈ items, c ∉ item.toList := by
  induction items with
  | nil => simp
  | cons item rest ih =>
      rw [List.forall_mem_cons]
      cases rest with
      | nil => simp
      | cons next rest =>
          rw [String.intercalate_cons_cons, ← ih]
          simp [apart]

/-! ## Runs -/

/-- The maximal runs of items that do not separate. -/
def runs (separates : α → Bool) (text : List α) : List (List α) :=
  (cut separates text).filter (!·.isEmpty)

/-- A text consists of runs and of items that separate them. A run ends where the text ends or a
separating item follows. -/
inductive HasRuns (separates : α → Bool) : List (List α) → List α → Prop where
  | nil : HasRuns separates [] []
  | separator {c : α} {rest : List α} {parts : List (List α)} (isSeparator : separates c = true)
      (others : HasRuns separates parts rest) : HasRuns separates parts (c :: rest)
  | run {part rest : List α} {parts : List (List α)} (nonempty : part ≠ [])
      (never : ∀ c ∈ part, separates c = false) (ends : ∀ c ∈ rest.head?, separates c = true)
      (others : HasRuns separates parts rest) : HasRuns separates (part :: parts) (part ++ rest)

@[simp] theorem runs_nil : runs separates [] = [] :=
  rfl

theorem runs_append_cons (isSeparator : separates c = true) :
    runs separates (first ++ c :: second) = runs separates first ++ runs separates second := by
  rw [runs, cut_append_cons isSeparator, List.filter_append]
  rfl

theorem runs_cons (isSeparator : separates c = true) :
    runs separates (c :: text) = runs separates text := by
  rw [← List.nil_append (c :: text), runs_append_cons isSeparator, runs_nil, List.nil_append]

theorem runs_eq_singleton (nonempty : part ≠ []) (never : ∀ c ∈ part, separates c = false) :
    runs separates part = [part] := by
  rw [runs, cut_eq_singleton never]
  simp [nonempty]

theorem HasRuns.runs_eq (has : HasRuns separates parts text) : runs separates text = parts := by
  induction has with
  | nil => rfl
  | separator isSeparator _ ih => rw [runs_cons isSeparator, ih]
  | @run part rest parts nonempty never ends _ ih =>
      cases rest with
      | nil => rw [List.append_nil, runs_eq_singleton nonempty never, ← ih, runs_nil]
      | cons c rest =>
          have isSeparator := ends c rfl
          rw [runs_append_cons isSeparator, runs_eq_singleton nonempty never, ← ih,
            runs_cons isSeparator, List.singleton_append]

/-- An item that does not separate goes into the first run, if the text starts with it. -/
theorem exists_hasRuns (separates : α → Bool) (text : List α) :
    ∃ parts, HasRuns separates parts text := by
  induction text with
  | nil => exact ⟨[], .nil⟩
  | cons c rest ih =>
      obtain ⟨parts, has⟩ := ih
      cases kind : separates c with
      | true => exact ⟨parts, .separator kind has⟩
      | false =>
          have own : ∀ d ∈ [c], separates d = false := List.forall_mem_singleton.mpr kind
          cases has with
          | nil => exact ⟨_, .run (List.cons_ne_nil c []) own (by simp) .nil⟩
          | separator isSeparator others =>
              exact ⟨_, .run (List.cons_ne_nil c []) own (by simpa using isSeparator)
                (.separator isSeparator others)⟩
          | @run part rest parts _ never ends others =>
              exact ⟨_, .run (List.cons_ne_nil c part) (List.forall_mem_cons.mpr ⟨kind, never⟩)
                ends others⟩

/-- The runs of a text are those that it consists of. -/
theorem runs_eq_iff : runs separates text = parts ↔ HasRuns separates parts text := by
  refine ⟨?_, HasRuns.runs_eq⟩
  rintro rfl
  obtain ⟨parts, has⟩ := exists_hasRuns separates text
  rwa [has.runs_eq]

/-- A run has items, and none of them separates. -/
theorem HasRuns.forall_mem (has : HasRuns separates parts text) :
    ∀ part ∈ parts, part ≠ [] ∧ ∀ c ∈ part, separates c = false := by
  induction has with
  | nil => exact List.forall_mem_nil _
  | separator _ _ ih => exact ih
  | run nonempty never _ _ ih => exact List.forall_mem_cons.mpr ⟨⟨nonempty, never⟩, ih⟩

/-- The runs have all items that do not separate, in order. -/
theorem HasRuns.flatten_eq (has : HasRuns separates parts text) :
    parts.flatten = text.filter fun c => !separates c := by
  induction has with
  | nil => rfl
  | separator isSeparator _ ih => rw [ih, List.filter_cons_of_neg (by simp [isSeparator])]
  | @run part rest parts _ never _ _ ih =>
      have kept : ∀ c ∈ part, (!separates c) = true := by
        intro c member
        rw [never c member]
        rfl
      rw [List.flatten_cons, ih, List.filter_append, List.filter_eq_self.mpr kept]

theorem hasRuns_singleton (nonempty : part ≠ []) (never : ∀ c ∈ part, separates c = false) :
    HasRuns separates [part] part :=
  runs_eq_iff.mp (runs_eq_singleton nonempty never)

/-- Parts without separating items are the runs of what a separator puts between them. -/
theorem hasRuns_intercalate (isSeparator : separates c = true)
    (each : ∀ part ∈ parts, part ≠ [] ∧ ∀ d ∈ part, separates d = false) :
    HasRuns separates parts ([c].intercalate parts) := by
  induction parts with
  | nil => exact .nil
  | cons part rest ih =>
      obtain ⟨⟨nonempty, never⟩, others⟩ := List.forall_mem_cons.mp each
      cases rest with
      | nil =>
          rw [List.intercalate_singleton]
          exact hasRuns_singleton nonempty never
      | cons next rest =>
          rw [List.intercalate_cons_cons, List.append_assoc]
          exact .run nonempty never (by simpa using isSeparator) (.separator isSeparator (ih others))

end

/-! ## Replacing -/

variable {part replacement text : List Char} {c : Char}

/-- A character at which the part does not start stays. -/
theorem replaceFrom_cons (apart : ¬ part <+: c :: text) :
    replaceFrom part replacement 0 (c :: text) = c :: replaceFrom part replacement 0 text := by
  rw [replaceFrom, if_neg fun start => apart (List.isPrefixOf_iff_prefix.mp start)]

theorem replaceFrom_skip (part replacement skipped text : List Char) :
    replaceFrom part replacement skipped.length (skipped ++ text) =
      replaceFrom part replacement 0 text := by
  induction skipped with
  | nil => rfl
  | cons c skipped ih => exact ih

/-- The part is replaced where it starts, and the rest of it is skipped. -/
theorem replaceFrom_part (c : Char) (part replacement text : List Char) :
    replaceFrom (c :: part) replacement 0 (c :: (part ++ text)) =
      replacement ++ replaceFrom (c :: part) replacement 0 text := by
  have start : (c :: part).isPrefixOf (c :: (part ++ text)) = true :=
    List.isPrefixOf_iff_prefix.mpr (List.prefix_append (c :: part) text)
  rw [replaceFrom, if_pos start, List.length_cons, Nat.add_sub_cancel, replaceFrom_skip]

theorem replaceAll_singleton (c : Char) (replacement text : List Char) :
    replaceAll [c] replacement text = text.flatMap fun d => if d = c then replacement else [d] := by
  change replaceFrom [c] replacement 0 text = _
  induction text with
  | nil => rfl
  | cons d text ih =>
      rw [List.flatMap_cons, ← ih]
      by_cases same : d = c
      · rw [if_pos same, same]
        exact replaceFrom_part c [] replacement text
      · rw [if_neg same, replaceFrom_cons fun start => same (List.cons_prefix_cons.mp start).1.symm]
        rfl

/-- What holds of the characters of a text and of a replacement holds of those of the result. -/
theorem forall_mem_replaceAll {p : Char → Prop} (kept : ∀ c ∈ text, p c)
    (brought : ∀ c ∈ replacement, p c) : ∀ c ∈ replaceAll part replacement text, p c := by
  have replaced (skip : Nat) : ∀ c ∈ replaceFrom part replacement skip text, p c := by
    induction text generalizing skip with
    | nil =>
        rw [replaceFrom]
        exact List.forall_mem_nil _
    | cons c text ih =>
        rw [List.forall_mem_cons] at kept
        cases skip with
        | succ skip => exact ih kept.2 skip
        | zero =>
            rw [replaceFrom]
            split
            · exact List.forall_mem_append.mpr ⟨brought, ih kept.2 _⟩
            · exact List.forall_mem_cons.mpr ⟨kept.1, ih kept.2 0⟩
  rw [replaceAll]
  split
  · exact kept
  · exact replaced 0

end OptionSchema.Text
