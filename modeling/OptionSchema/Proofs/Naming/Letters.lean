import OptionSchema.Proofs.Naming.Identifier

/-!
# The letters of a name

Rendering an ASCII name changes nothing of its letters and digits but their case, whatever the
initialisms (`smallText_exported`). A field identifier gives the letters back when the underscores
and the mark of a raw identifier are left out (`fieldLetters_fieldIdentifier`), so names with one
field identifier are look-alikes (`lookAlike_of_fieldIdentifier_eq`).
-/

namespace OptionSchema

open Text (isAscii isAlphanumeric smallForm smallText smallTextAfter)

/-- The small form of an ASCII text is taken character by character. -/
theorem Text.smallText_of_isAscii {text : String} (ascii : ∀ c ∈ text.toList, isAscii c = true) :
    smallText text = String.ofList (text.toList.map Char.toLower) := by
  have after (text : List Char) (ascii : ∀ c ∈ text, isAscii c = true) (before : List Char) :
      smallTextAfter before text = text.map Char.toLower := by
    induction text generalizing before with
    | nil => rfl
    | cons c rest ih =>
        obtain ⟨first, others⟩ := List.forall_mem_cons.mp ascii
        have noSigma : (c == 'Σ') = false := by
          refine beq_false_of_ne ?_
          rintro rfl
          revert first
          decide
        rw [smallTextAfter, noSigma, ih others, smallForm, if_pos first]
        rfl
  rw [smallText, after text.toList ascii]

namespace Naming

variable {rules : Rules} {name first second identifier target : String} {c : Char}
  {text word : List Char}

def letters (name : String) : List Char :=
  (name.toList.filter isAlphanumeric).map Char.toLower

/-- Two names have the same letters and digits but for their case, or one has none and the other
those of the name that is used instead. -/
def LookAlike (first second : String) : Prop :=
  letters first = letters second ∨ letters first = [] ∧ letters second = "unnamed".toList ∨
    letters second = [] ∧ letters first = "unnamed".toList

/-! ## Exported names -/

theorem toLower_toUpper (ascii : isAscii c = true) : c.toUpper.toLower = c.toLower :=
  Text.of_isAscii (p := fun c => c.toUpper.toLower = c.toLower) (by decide) ascii

/-- A word is rendered with its own letters and digits. -/
theorem map_toLower_renderWord (rules : Rules) (ascii : ∀ c ∈ word, isAscii c = true) :
    (rules.renderWord word).map Char.toLower = word.map Char.toLower := by
  rw [Rules.renderWord]
  split
  · clear * - ascii
    induction word with
    | nil => rfl
    | cons c rest ih =>
        obtain ⟨first, others⟩ := List.forall_mem_cons.mp ascii
        rw [Text.capitalText, List.flatMap_cons, List.map_append, capitalForm_of_isAscii first,
          List.map_singleton, toLower_toUpper first, List.map_cons, ← ih others]
        rfl
  · cases word with
    | nil => rfl
    | cons c rest =>
        have first := ascii c (List.mem_cons_self ..)
        rw [capitalize, capitalForm_of_isAscii first, List.singleton_append, List.map_cons,
          toLower_toUpper first, List.map_cons]

theorem map_toLower_joined (rules : Rules) (ascii : ∀ c ∈ text, isAscii c = true) :
    (rules.joined text).map Char.toLower = (text.filter isAlphanumeric).map Char.toLower := by
  have words := forall_mem_splitWords fun c member (_ : isAlphanumeric c = true) => ascii c member
  rw [Rules.joined_eq, ← flatten_splitWords, List.map_flatMap, List.map_flatten,
    ← List.flatMap_def]
  exact List.flatMap_congr fun word isWord => map_toLower_renderWord rules (words word isWord)

theorem isAlphanum_of_mem_letters (ascii : IsAsciiText name) :
    ∀ c ∈ letters name, c.isAlphanum = true := by
  refine List.forall_mem_map.mpr fun c member => ?_
  obtain ⟨isMember, alphanumeric⟩ := List.mem_filter.mp member
  have alphanum := isAlphanum_of_isAlphanumeric (ascii c isMember) alphanumeric
  exact Text.of_isAscii (p := fun c => c.isAlphanum = true → c.toLower.isAlphanum = true)
    (by decide) (ascii c isMember) alphanum

section

variable (plain : rules.overrides = []) (ascii : IsAsciiText name)

include plain ascii

theorem isWordChar_of_mem_exported : ∀ c ∈ (rules.exported name).toList, IsWordChar c :=
  (hasStart_exported plain ascii).forall_mem isAlpha_of_isUpper

theorem smallText_exported_eq_map :
    smallText (rules.exported name) =
      String.ofList ((rules.exported name).toList.map Char.toLower) :=
  Text.smallText_of_isAscii fun c member =>
    isAscii_of_isWordChar (isWordChar_of_mem_exported plain ascii c member)

/-- An exported name is made of the letters and digits of the name that it renders. -/
theorem smallText_exported :
    smallText (rules.exported name) =
      if letters name = [] then "unnamed"
      else if (letters name).head?.any Char.isDigit then "_" ++ String.ofList (letters name)
      else String.ofList (letters name) := by
  have same : (rules.joined name.toList).map Char.toLower = letters name :=
    map_toLower_joined rules ascii
  have alphanum := isAlphanum_joined rules ascii
  rw [smallText_exported_eq_map plain ascii, Rules.exported_eq plain, String.toList_ofList, ← same]
  cases rendered : rules.joined name.toList with
  | nil => decide
  | cons c rest =>
      have isWord : IsWordChar c := .inl (alphanum c (rendered ▸ List.mem_cons_self ..))
      have digit : c.toLower.isDigit = c.isDigit :=
        of_isWordChar (p := fun c => c.toLower.isDigit = c.isDigit) (by decide) isWord
      rw [startIdentifier_cons, List.map_cons, if_neg (List.cons_ne_nil _ _), List.head?_cons,
        Option.any_some, digit]
      split
      · exact @String.ofList_append ['_'] _
      · rfl

end

/-! ## Field identifiers -/

/-- What a field identifier keeps of a name: all but underscores and the mark of a raw
identifier. -/
def fieldLetters : List Char → List Char
  | 'r' :: '#' :: rest => rest.filter (· != '_')
  | text => text.filter (· != '_')

theorem fieldLetters_of_isWordChar (word : ∀ c ∈ text, IsWordChar c) :
    fieldLetters text = text.filter (· != '_') := by
  unfold fieldLetters
  split
  · exact absurd (word '#' (by simp)) (by decide)
  · rfl

theorem filter_snakeCase (word : ∀ c ∈ text, IsWordChar c) :
    (snakeCase text).filter (· != '_') = (text.map Char.toLower).filter (· != '_') := by
  have after (previous : Char) (rest : List Char) (word : ∀ c ∈ rest, IsWordChar c) :
      (snakeCaseAfter previous rest).filter (· != '_') =
        (rest.map Char.toLower).filter (· != '_') := by
    induction rest generalizing previous with
    | nil => rfl
    | cons c rest ih =>
        obtain ⟨first, others⟩ := List.forall_mem_cons.mp word
        rw [snakeCaseAfter, (smallForm_of_isWordChar first).1, List.filter_append,
          List.filter_append, ih c others, ← List.singleton_append (l := rest), List.map_append,
          List.filter_append]
        split <;> rfl
  cases text with
  | nil => rfl
  | cons c rest =>
      obtain ⟨first, others⟩ := List.forall_mem_cons.mp word
      rw [snakeCase, (smallForm_of_isWordChar first).1, List.filter_append, after c rest others,
        ← List.singleton_append (l := rest), List.map_append, List.filter_append]
      rfl

/-- The escape of a keyword keeps its letters. -/
theorem fieldLetters_escapeKeyword (word : ∀ c ∈ identifier.toList, IsWordChar c) :
    fieldLetters (escapeKeyword identifier).toList = identifier.toList.filter (· != '_') := by
  rw [escapeKeyword]
  split
  · have isWord : ∀ c ∈ (identifier ++ "_").toList, IsWordChar c := by
      rw [String.toList_append]
      exact List.forall_mem_append.mpr ⟨word, List.forall_mem_singleton.mpr (.inr rfl)⟩
    rw [fieldLetters_of_isWordChar isWord, String.toList_append, List.filter_append]
    exact List.append_nil _
  · split
    · rw [String.toList_append]
      rfl
    · exact fieldLetters_of_isWordChar word

section

variable (plain : rules.overrides = [])

include plain

theorem fieldLetters_fieldIdentifier (ascii : IsAsciiText name) :
    fieldLetters (fieldIdentifier (rules.exported name)).toList =
      if letters name = [] then "unnamed".toList else letters name := by
  have starts := hasStart_exported plain ascii
  have small : (rules.exported name).toList.map Char.toLower =
      (smallText (rules.exported name)).toList := by
    rw [smallText_exported_eq_map plain ascii, String.toList_ofList]
  have noUnderscore : (letters name).filter (· != '_') = letters name := by
    refine List.filter_eq_self.mpr fun c member => bne_iff_ne.mpr ?_
    rintro rfl
    exact absurd (isAlphanum_of_mem_letters ascii _ member) (by decide)
  rw [fieldIdentifier, fieldLetters_escapeKeyword, String.toList_ofList,
    filter_snakeCase (isWordChar_of_mem_exported plain ascii), small,
    smallText_exported plain ascii]
  · split
    · decide
    · split
      · simp only [String.toList_append, String.toList_ofList, List.filter_append, noUnderscore]
        rfl
      · rw [String.toList_ofList, noUnderscore]
  · rw [String.toList_ofList]
    exact (hasStart_snakeCase starts).forall_mem isAlpha_of_isLower

/-- Only names that look alike have the same field identifier. -/
theorem lookAlike_of_fieldIdentifier_eq (ascii : IsAsciiText first) (ascii' : IsAsciiText second)
    (same : fieldIdentifier (rules.exported first) = fieldIdentifier (rules.exported second)) :
    LookAlike first second := by
  have kept := fieldLetters_fieldIdentifier plain ascii
  rw [same, fieldLetters_fieldIdentifier plain ascii'] at kept
  split at kept
  · next none =>
      split at kept
      · next none' => exact .inl (none'.trans none.symm)
      · exact .inr (.inr ⟨none, kept.symm⟩)
  · split at kept
    · next none => exact .inr (.inl ⟨none, kept⟩)
    · exact .inl kept.symm

end

end Naming

end OptionSchema
