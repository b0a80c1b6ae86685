import OptionSchema.Proofs.Naming.Identifier

/-!
# Spellings of a list of words

A list of words in small letters can be spelled as one name in kebab case, in snake case and in camel
case. Main statement: `exported_spellings`. All three have the same exported name, from which the
field identifier gets the words back, as the capital letters stand just where a word starts.
-/

namespace OptionSchema.Naming

open Text (HasRuns isAlphanumeric isAscii smallForm)

variable {words : List (List Char)} {word run current text : List Char} {previous c : Char}

/-- A word of small letters: a letter, and behind it one letter or digit at least. -/
def IsSmallWord (word : List Char) : Prop :=
  ∃ first second rest, word = first :: second :: rest ∧ first.isLower = true ∧
    ∀ c ∈ second :: rest, c.isLower = true ∨ c.isDigit = true

instance : DecidablePred IsSmallWord
  | [] | [_] => isFalse fun ⟨_, _, _, short, _⟩ => by cases short
  | first :: second :: rest =>
      decidable_of_iff (first.isLower = true ∧
          (second :: rest).all (fun c => c.isLower || c.isDigit) = true) <| by
        simp [IsSmallWord]

def titled : List Char → List Char
  | [] => []
  | c :: rest => c.toUpper :: rest

def kebabSpelling (words : List (List Char)) : String :=
  String.ofList (['-'].intercalate words)

def snakeSpelling (words : List (List Char)) : String :=
  String.ofList (['_'].intercalate words)

def camelSpelling : List (List Char) → String
  | [] => ""
  | first :: rest => String.ofList (first ++ rest.flatMap titled)

/-- Words in a row, each with an upper-case letter. -/
def titledSpelling (words : List (List Char)) : String :=
  String.ofList (words.flatMap titled)

/-! ## Characters of the words -/

theorem isAlphanum_of_isLower (lower : c.isLower = true) : c.isAlphanum = true :=
  isAlphanum_of_isAlpha (isAlpha_of_isLower c lower)

theorem isAlphanum_of_kind (kind : c.isLower = true ∨ c.isDigit = true) : c.isAlphanum = true := by
  rcases kind with lower | digit
  · exact isAlphanum_of_isLower lower
  · rw [Char.isAlphanum, digit, Bool.or_true]

theorem IsSmallWord.isAlphanum (small : IsSmallWord word) : ∀ c ∈ word, c.isAlphanum = true := by
  obtain ⟨first, second, rest, rfl, lower, others⟩ := small
  exact List.forall_mem_cons.mpr
    ⟨isAlphanum_of_isLower lower, fun c member => isAlphanum_of_kind (others c member)⟩

theorem toUpper_of_isLower (lower : c.isLower = true) :
    Text.isCapital c.toUpper = true ∧ smallForm c.toUpper = [c] ∧ c.toUpper.isDigit = false :=
  of_isWordChar (p := fun c => c.isLower = true → Text.isCapital c.toUpper = true ∧
    smallForm c.toUpper = [c] ∧ c.toUpper.isDigit = false) (by decide)
    (.inl (isAlphanum_of_isLower lower)) lower

theorem isApart_of_isAlphanum (alphanum : c.isAlphanum = true) : isApart c = false := by
  rw [isApart, isAlphanumeric, if_pos (isAscii_of_isWordChar (.inl alphanum)), alphanum]
  rfl

theorem capitalize_eq_titled (alphanum : ∀ c ∈ word, c.isAlphanum = true) :
    capitalize word = titled word := by
  cases word with
  | nil => rfl
  | cons c rest =>
      have ascii := isAscii_of_isWordChar (.inl (alphanum c (List.mem_cons_self ..)))
      rw [capitalize, capitalForm_of_isAscii ascii]
      rfl

/-! ## Exported names -/

/-- A word within a run starts with a capital letter anyway, if it is not the first one. -/
theorem flatMap_capitalize_wordsAfter (started : ∀ c ∈ current, c.isAlphanum = true)
    (alphanum : ∀ c ∈ text, c.isAlphanum = true) :
    (wordsAfter current text).flatMap capitalize = titled (current ++ text) := by
  fun_induction wordsAfter current text with
  | case1 current =>
      rw [someWord]
      split
      · next empty => rw [List.isEmpty_iff.mp empty]; rfl
      · rw [List.flatMap_singleton, capitalize_eq_titled started, List.append_nil]
  | case2 current c rest apart ih =>
      have known := isApart_of_isAlphanum (alphanum c (List.mem_cons_self ..))
      rw [isApart] at known
      rw [known] at apart
      cases apart
  | case3 current c rest _ capital ih =>
      obtain ⟨first, others⟩ := List.forall_mem_cons.mp alphanum
      have fixed : Text.isCapital c = true → c.toUpper = c :=
        of_isWordChar (p := fun c => Text.isCapital c = true → c.toUpper = c) (by decide)
          (.inl first)
      obtain ⟨isCapital, isSmall⟩ := Bool.and_eq_true_iff.mp capital
      rw [List.flatMap_cons, capitalize_eq_titled started,
        ih (List.forall_mem_singleton.mpr first) others, List.singleton_append, titled,
        fixed isCapital]
      cases current with
      | nil => simp at isSmall
      | cons d current => rfl
  | case4 current c rest _ _ ih =>
      obtain ⟨first, others⟩ := List.forall_mem_cons.mp alphanum
      rw [ih (List.forall_mem_append.mpr ⟨started, List.forall_mem_singleton.mpr first⟩) others,
        List.append_assoc, List.singleton_append]

theorem flatMap_splitWords_plain (alphanum : ∀ c ∈ text, c.isAlphanum = true) :
    (splitWords text).flatMap Rules.plain.renderWord = titled text := by
  have render : Rules.plain.renderWord = capitalize := funext fun word => if_neg Bool.false_ne_true
  rw [render]
  exact flatMap_capitalize_wordsAfter (List.forall_mem_nil _) alphanum

/-- With the plain rules a name is rendered run by run. -/
theorem exported_plain_eq {name : String} (has : HasRuns isApart words name.toList)
    (alphanum : ∀ word ∈ words, ∀ c ∈ word, c.isAlphanum = true) :
    Rules.plain.exported name = String.ofList (startIdentifier (words.flatMap titled)) := by
  have rendered : (words.flatMap fun word => (splitWords word).flatMap Rules.plain.renderWord) =
      words.flatMap titled :=
    List.flatMap_congr fun word isWord => flatMap_splitWords_plain (alphanum word isWord)
  have unchanged (text : List Char) : Rules.plain.overridden text = text := rfl
  rw [Rules.exported_eq_exportedRuns, has.runs_eq, Rules.exportedRuns, rendered, unchanged]

theorem exported_plain {name : String} (has : HasRuns isApart words name.toList)
    (alphanum : ∀ word ∈ words, ∀ c ∈ word, c.isAlphanum = true)
    (starts : ∃ c rest, words.flatMap titled = c :: rest ∧ c.isDigit = false) :
    Rules.plain.exported name = titledSpelling words := by
  obtain ⟨c, rest, chars, noDigit⟩ := starts
  rw [exported_plain_eq has alphanum, titledSpelling, chars, startIdentifier_cons, noDigit]
  rfl

section

variable (small : ∀ word ∈ words, IsSmallWord word)

include small

theorem hasRuns_spelling (separator : isApart c = true) :
    HasRuns isApart words ([c].intercalate words) := by
  refine Text.hasRuns_intercalate separator fun word isWord => ⟨?_, fun d member => ?_⟩
  · obtain ⟨first, second, rest, rfl, -⟩ := small word isWord
    exact List.cons_ne_nil _ _
  · exact isApart_of_isAlphanum ((small word isWord).isAlphanum d member)

/-- Words in a row start with the capital letter of the first one. -/
theorem exists_titled_eq_cons (some : words ≠ []) :
    ∃ c rest, words.flatMap titled = c :: rest ∧ c.isDigit = false := by
  obtain ⟨word, rest, rfl⟩ := List.exists_cons_of_ne_nil some
  obtain ⟨first, second, others, rfl, lower, -⟩ := small word (List.mem_cons_self ..)
  exact ⟨_, _, rfl, (toUpper_of_isLower lower).2.2⟩

theorem isAlphanum_of_mem_titled : ∀ word ∈ words, ∀ c ∈ titled word, c.isAlphanum = true := by
  intro word isWord
  have alphanum := (small word isWord).isAlphanum
  cases word with
  | nil => exact List.forall_mem_nil _
  | cons c rest =>
      obtain ⟨first, others⟩ := List.forall_mem_cons.mp alphanum
      exact List.forall_mem_cons.mpr
        ⟨isAlphanum_toUpper (isAscii_of_isWordChar (.inl first)) first, others⟩

/-- A name in camel case is one run, which is rendered as a whole. -/
theorem exported_camelSpelling (some : words ≠ []) :
    Rules.plain.exported (camelSpelling words) = titledSpelling words := by
  have starts := exists_titled_eq_cons small some
  obtain ⟨first, rest, rfl⟩ := List.exists_cons_of_ne_nil some
  have alphanum : ∀ c ∈ first ++ rest.flatMap titled, c.isAlphanum = true := by
    refine List.forall_mem_append.mpr ⟨(small first (List.mem_cons_self ..)).isAlphanum, ?_⟩
    rw [List.forall_mem_flatMap]
    exact fun word isWord => isAlphanum_of_mem_titled small word (List.mem_cons_of_mem _ isWord)
  obtain ⟨c, d, others, rfl, -⟩ := small first (List.mem_cons_self ..)
  have whole : [c :: d :: others ++ rest.flatMap titled].flatMap titled =
      ((c :: d :: others) :: rest).flatMap titled := List.append_nil _
  rw [← whole] at starts
  have has : HasRuns isApart [c :: d :: others ++ rest.flatMap titled]
      (camelSpelling ((c :: d :: others) :: rest)).toList := by
    rw [camelSpelling, String.toList_ofList]
    exact Text.hasRuns_singleton (List.cons_ne_nil _ _) fun c member =>
      isApart_of_isAlphanum (alphanum c member)
  rw [exported_plain has (List.forall_mem_singleton.mpr alphanum) starts, titledSpelling, whole,
    titledSpelling]

end

/-! ## Field identifiers -/

theorem smallForm_of_kind (kind : c.isLower = true ∨ c.isDigit = true) :
    Text.isCapital c = false ∧ smallForm c = [c] := by
  have isWord : IsWordChar c := .inl (isAlphanum_of_kind kind)
  have fixed : c.isLower = true ∨ c.isDigit = true → Text.isCapital c = false ∧ c.toLower = c :=
    of_isWordChar (p := fun c => c.isLower = true ∨ c.isDigit = true →
      Text.isCapital c = false ∧ c.toLower = c) (by decide) isWord
  rw [(smallForm_of_isWordChar isWord).1, (fixed kind).2]
  exact ⟨(fixed kind).1, rfl⟩

/-- Small letters and digits are kept as they are, whatever is in front of them. -/
theorem exists_snakeCaseAfter_append (previous : Char) (some : run ≠ [])
    (kind : ∀ c ∈ run, c.isLower = true ∨ c.isDigit = true) :
    ∃ last, (last.isLower = true ∨ last.isDigit = true) ∧
      ∀ rest, snakeCaseAfter previous (run ++ rest) = run ++ snakeCaseAfter last rest := by
  induction run generalizing previous with
  | nil => exact absurd rfl some
  | cons c run ih =>
      obtain ⟨first, others⟩ := List.forall_mem_cons.mp kind
      obtain ⟨noCapital, form⟩ := smallForm_of_kind first
      have kept (rest : List Char) : snakeCaseAfter previous (c :: rest) =
          c :: snakeCaseAfter c rest := by
        rw [snakeCaseAfter, startsWord, noCapital, form]
        rfl
      cases run with
      | nil => exact ⟨c, first, kept⟩
      | cons d run =>
          obtain ⟨last, isLast, after⟩ := ih c (List.cons_ne_nil d run) others
          refine ⟨last, isLast, fun rest => ?_⟩
          rw [List.cons_append, kept, after]
          rfl

/-- A capital letter behind a small letter or a digit gets an underscore in front. -/
theorem snakeCaseAfter_toUpper (start : previous.isLower = true ∨ previous.isDigit = true)
    (lower : c.isLower = true) (rest : List Char) :
    snakeCaseAfter previous (c.toUpper :: rest) = '_' :: c :: snakeCaseAfter c.toUpper rest := by
  obtain ⟨isCapital, form, -⟩ := toUpper_of_isLower lower
  have isSmall : previous.isLower = true → Text.isSmall previous = true := fun lower =>
    (if_pos (isAscii_of_isWordChar (.inl (isAlphanum_of_isLower lower)))).trans lower
  have starts : startsWord previous c.toUpper rest.head? = true := by
    rw [startsWord, isCapital]
    rcases start with lower | digit
    · rw [isSmall lower]
      rfl
    · rw [digit, Bool.or_true]
      rfl
  rw [snakeCaseAfter, starts, form]
  rfl

/-- Each word behind a small letter or a digit gets an underscore in front. -/
theorem snakeCaseAfter_titled (small : ∀ word ∈ words, IsSmallWord word)
    (start : previous.isLower = true ∨ previous.isDigit = true) :
    snakeCaseAfter previous (words.flatMap titled) = words.flatMap ('_' :: ·) := by
  induction words generalizing previous with
  | nil => rfl
  | cons word words ih =>
      obtain ⟨⟨c, d, rest, rfl, lower, kind⟩, others⟩ := List.forall_mem_cons.mp small
      obtain ⟨last, isLast, after⟩ :=
        exists_snakeCaseAfter_append c.toUpper (List.cons_ne_nil d rest) kind
      rw [List.flatMap_cons, titled, List.cons_append, snakeCaseAfter_toUpper start lower, after,
        ih others isLast]
      rfl

/-- The snake case of words in a row is their spelling with underscores. -/
theorem snakeCase_titled (small : ∀ word ∈ words, IsSmallWord word) :
    snakeCase (words.flatMap titled) = ['_'].intercalate words := by
  cases words with
  | nil => rfl
  | cons word words =>
      obtain ⟨⟨c, d, rest, rfl, lower, kind⟩, others⟩ := List.forall_mem_cons.mp small
      obtain ⟨last, isLast, after⟩ :=
        exists_snakeCaseAfter_append c.toUpper (List.cons_ne_nil d rest) kind
      rw [← Text.append_flatMap_eq_intercalate, List.flatMap_cons, titled, List.cons_append,
        snakeCase, (toUpper_of_isLower lower).2.1, after, snakeCaseAfter_titled others isLast]
      rfl

/-- A list of words has one exported name, whether it is spelled in kebab case, in snake case or in
camel case: its words in a row, each with an upper-case letter. The field identifier of that name is
the spelling in snake case, written raw if it is a keyword that can be, and with an underscore behind
it if it is a keyword that cannot. -/
theorem exported_spellings (words : List (List Char)) (some : words ≠ [])
    (small : ∀ word ∈ words, IsSmallWord word) :
    Rules.plain.exported (kebabSpelling words) = titledSpelling words ∧
    Rules.plain.exported (snakeSpelling words) = titledSpelling words ∧
    Rules.plain.exported (camelSpelling words) = titledSpelling words ∧
    fieldIdentifier (titledSpelling words) =
      if snakeSpelling words ∈ pathKeywords then snakeSpelling words ++ "_"
      else if snakeSpelling words ∈ keywords then "r#" ++ snakeSpelling words
      else snakeSpelling words := by
  have starts := exists_titled_eq_cons small some
  have separated {c : Char} (separator : isApart c = true) :
      Rules.plain.exported (String.ofList ([c].intercalate words)) = titledSpelling words := by
    refine exported_plain ?_ (fun word isWord => (small word isWord).isAlphanum) starts
    rw [String.toList_ofList]
    exact hasRuns_spelling small separator
  refine ⟨separated (by decide), separated (by decide), exported_camelSpelling small some, ?_⟩
  rw [fieldIdentifier, titledSpelling, String.toList_ofList, snakeCase_titled small,
    escapeKeyword_eq]
  rfl

/-- One of the words ends with a digit. The names of one word are spelled alike, and their field
identifiers are keywords of the two kinds. -/
theorem exported_spellings_ipv4 :
    (Rules.plain.exported "ipv4-only" = "Ipv4Only" ∧
      Rules.plain.exported "ipv4_only" = "Ipv4Only" ∧
      Rules.plain.exported "ipv4Only" = "Ipv4Only" ∧ fieldIdentifier "Ipv4Only" = "ipv4_only") ∧
    (Rules.plain.exported "type" = "Type" ∧ fieldIdentifier "Type" = "r#type") ∧
    (Rules.plain.exported "self" = "Self" ∧ fieldIdentifier "Self" = "self_") := by
  have ipv4 := exported_spellings [['i', 'p', 'v', '4'], ['o', 'n', 'l', 'y']] (by decide)
    (by decide)
  have raw := exported_spellings [['t', 'y', 'p', 'e']] (by decide) (by decide)
  have path := exported_spellings [['s', 'e', 'l', 'f']] (by decide) (by decide)
  exact ⟨ipv4, ⟨raw.1, raw.2.2.2⟩, path.1, path.2.2.2⟩

end OptionSchema.Naming
