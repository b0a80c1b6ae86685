import OptionSchema.Naming.Identifier
import OptionSchema.Proofs.Text.Piece

/-!
# The words of a name

A name is cut at its separator and the parts are split into words. The words are those of the whole
name (`Rules.joined_eq`), since the splitting starts anew behind every character that is neither
letter nor number. So it starts anew at every run of letters and numbers, and what is between the
runs does not matter. Main statement: `Rules.exported_of_runs`.
-/

namespace OptionSchema.Naming

open Text (HasRuns cut isAlphanumeric runs)

variable {current text first second : List Char} {separates : Char → Bool} {c : Char}

def isApart (c : Char) : Bool :=
  !isAlphanumeric c

theorem isApart_separator (name : List Char) : isApart (separator name) = true := by
  rw [separator]
  split <;> decide

/-! ## Splitting a text -/

theorem wordsAfter_cons_of_isApart (apart : isApart c = true) :
    wordsAfter current (c :: text) = someWord current ++ splitWords text :=
  if_pos apart

/-- The pieces of a text have the words of the text if it is cut at ends of words only. The first
piece goes on with the word that has been started. -/
theorem wordsAfter_cut (apart : ∀ c, separates c = true → isApart c = true)
    {piece : List Char} {others : List (List Char)} (pieces : cut separates text = piece :: others) :
    wordsAfter current piece ++ others.flatMap splitWords = wordsAfter current text := by
  induction text generalizing current piece others with
  | nil =>
      cases pieces
      exact List.append_nil _
  | cons c rest ih =>
      obtain ⟨next, later, piecesOn⟩ := Text.exists_cut_eq_cons separates rest
      rw [cut, piecesOn] at pieces
      split at pieces
      · next isSeparator =>
          cases pieces
          rw [wordsAfter_cons_of_isApart (apart c isSeparator), List.flatMap_cons]
          exact congrArg (someWord current ++ ·) (ih piecesOn)
      · cases pieces
        rw [wordsAfter, wordsAfter]
        split
        · rw [List.append_assoc, ih piecesOn]
        · split
          · rw [List.cons_append, ih piecesOn]
          · exact ih piecesOn

theorem flatMap_splitWords_cut (apart : ∀ c, separates c = true → isApart c = true)
    (text : List Char) : (cut separates text).flatMap splitWords = splitWords text := by
  obtain ⟨piece, others, pieces⟩ := Text.exists_cut_eq_cons separates text
  rw [pieces, List.flatMap_cons]
  exact wordsAfter_cut apart pieces

theorem flatMap_splitWords_runs (text : List Char) :
    (runs isApart text).flatMap splitWords = splitWords text := by
  have pieces : (cut isApart text).flatMap splitWords = splitWords text :=
    flatMap_splitWords_cut (fun _ => id) text
  rw [← pieces, runs]
  induction cut isApart text with
  | nil => rfl
  | cons piece others ih =>
      cases piece with
      | nil => exact ih
      | cons c rest => exact congrArg (splitWords (c :: rest) ++ ·) ih

/-- Splitting a text loses and adds no letters and numbers. -/
theorem flatten_wordsAfter (current text : List Char) :
    (wordsAfter current text).flatten = current ++ text.filter isAlphanumeric := by
  have started (current : List Char) : (someWord current).flatten = current := by
    cases current with
    | nil => rfl
    | cons c rest => exact List.append_nil (c :: rest)
  fun_induction wordsAfter current text with
  | case1 current => rw [started, List.filter_nil, List.append_nil]
  | case2 current c rest apart ih =>
      rw [Bool.not_eq_true'] at apart
      rw [List.flatten_append, started, ih, List.filter_cons_of_neg (by simp [apart]),
        List.nil_append]
  | case3 current c rest alphanumeric _ ih =>
      rw [Bool.not_eq_true', Bool.not_eq_false] at alphanumeric
      rw [List.flatten_cons, ih, List.filter_cons_of_pos alphanumeric, List.singleton_append]
  | case4 current c rest alphanumeric _ ih =>
      rw [Bool.not_eq_true', Bool.not_eq_false] at alphanumeric
      rw [ih, List.filter_cons_of_pos alphanumeric, List.append_assoc, List.singleton_append]

theorem flatten_splitWords (text : List Char) :
    (splitWords text).flatten = text.filter isAlphanumeric :=
  flatten_wordsAfter [] text

/-- The characters of the words are the letters and numbers of the text. -/
theorem forall_mem_splitWords {p : Char → Prop} (kept : ∀ c ∈ text, isAlphanumeric c = true → p c) :
    ∀ word ∈ splitWords text, ∀ c ∈ word, p c := by
  rw [← List.forall_mem_flatten, flatten_splitWords]
  exact fun c member => kept c (List.mem_of_mem_filter member) (List.mem_filter.mp member).2

/-! ## Rendering a name -/

/-- A name is rendered word by word, whatever separates its parts. -/
theorem Rules.joined_eq (rules : Rules) (name : List Char) :
    rules.joined name = (splitWords name).flatMap rules.renderWord := by
  have apart : ∀ c, (c == separator name) = true → isApart c = true := fun c isSeparator =>
    eq_of_beq isSeparator ▸ isApart_separator name
  rw [joined, ← List.flatMap_assoc, flatMap_splitWords_cut apart]

/-- The exported name that renders runs of letters and numbers: one pass over the runs, without a
separator of parts. -/
def Rules.exportedRuns (rules : Rules) (parts : List (List Char)) : String :=
  String.ofList <| startIdentifier <| rules.overridden <|
    parts.flatMap fun part => (splitWords part).flatMap rules.renderWord

theorem Rules.exported_eq_exportedRuns (rules : Rules) (name : String) :
    rules.exported name = rules.exportedRuns (runs isApart name.toList) := by
  rw [exported, exportedRuns, joined_eq, ← flatMap_splitWords_runs, List.flatMap_assoc]

/-- An exported name depends on nothing but the runs of letters and numbers of the name that it
renders. So names that consist of the same runs have the same exported name, type identifier and
field identifier, whatever other characters, and however many, stand between the runs, in front of
them and behind them. -/
theorem Rules.exported_of_runs (rules : Rules) :
    (∀ name : String, rules.exported name = rules.exportedRuns (runs isApart name.toList)) ∧
    (∀ (name : String) (parts : List (List Char)),
      runs isApart name.toList = parts ↔ HasRuns isApart parts name.toList) ∧
    ∀ (parts : List (List Char)) (first second : String),
      HasRuns isApart parts first.toList → HasRuns isApart parts second.toList →
        rules.exported first = rules.exported second ∧
        typeIdentifier (rules.exported first) = typeIdentifier (rules.exported second) ∧
        fieldIdentifier (rules.exported first) = fieldIdentifier (rules.exported second) := by
  refine ⟨rules.exported_eq_exportedRuns, fun _ _ => Text.runs_eq_iff,
    fun parts first second has has' => ?_⟩
  have same : rules.exported first = rules.exported second := by
    rw [exported_eq_exportedRuns, exported_eq_exportedRuns, has.runs_eq, has'.runs_eq]
  exact ⟨same, congrArg typeIdentifier same, congrArg fieldIdentifier same⟩

/-- Hyphens, underscores and other characters are mixed, and one run has a hump. -/
theorem Rules.exported_of_runs_mixed :
    HasRuns isApart ["größe".toList, "maxSize".toList] "größe-maxSize".toList ∧
      HasRuns isApart ["größe".toList, "maxSize".toList] "__größe_.-_maxSize ".toList ∧
      Rules.exported ⟨["max"], [("Size", "Width")]⟩ "__größe_.-_maxSize " = "GrößeMAXWidth" := by
  have has : HasRuns isApart ["größe".toList, "maxSize".toList] "größe-maxSize".toList :=
    Text.runs_eq_iff.mp (by decide +kernel)
  have has' : HasRuns isApart ["größe".toList, "maxSize".toList] "__größe_.-_maxSize ".toList :=
    Text.runs_eq_iff.mp (by decide +kernel)
  refine ⟨has, has', ?_⟩
  rw [← ((exported_of_runs _).2.2 _ _ _ has has').1]
  decide +kernel

end OptionSchema.Naming
