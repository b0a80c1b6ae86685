import OptionSchema.Proofs.Naming.Exported

/-!
# Legal identifiers

Exported names of ASCII names start with a capital letter, or with an underscore and a digit, and so
does all that is put together from them (`hasStart_exported`, `HasStart.append`). So a keyword can
only come up as `Self`, or when a field is named in small letters, and the guards that come last in
`typeIdentifier` and `fieldIdentifier` suffice (`isTypeIdentifier_typeIdentifier`,
`isFieldIdentifier_fieldIdentifier`).
-/

namespace OptionSchema.Naming

open Text (isAscii isAlphanumeric capitalForm smallForm)

/-! ## Identifiers -/

def IsWordChar (c : Char) : Prop :=
  c.isAlphanum = true ∨ c = '_'

instance : DecidablePred IsWordChar := fun c =>
  inferInstanceAs (Decidable (c.isAlphanum = true ∨ c = '_'))

/-- A letter or an underscore, and behind it letters, digits and underscores, all of them ASCII. -/
def IsWord (name : String) : Prop :=
  ∃ first rest, name.toList = first :: rest ∧ (first.isAlpha = true ∨ first = '_') ∧
    ∀ c ∈ rest, IsWordChar c

/-- The keywords of generated code: those in use, those of later editions, and those that are
reserved. -/
def keywords : List String :=
  ["as", "break", "const", "continue", "crate", "else", "enum", "extern", "false", "fn", "for",
    "if", "impl", "in", "let", "loop", "match", "mod", "move", "mut", "pub", "ref", "return",
    "self", "Self", "static", "struct", "super", "trait", "true", "type", "unsafe", "use", "where",
    "while", "async", "await", "dyn", "abstract", "become", "box", "do", "final", "macro",
    "override", "priv", "typeof", "unsized", "virtual", "yield", "try", "gen"]

/-- The keywords that are keywords even if they are written raw. -/
def pathKeywords : List String :=
  ["crate", "self", "super", "Self"]

structure IsIdentifier (name : String) : Prop where
  word : IsWord name
  notBlank : name ≠ "_"
  notKeyword : name ∉ keywords

def foreignTypes : List String :=
  ["Self", "Option", "Vec", "String", "Box", "BTreeMap", "Cow", "Result", "Serialize",
    "Deserialize"]

/-- An identifier for a type, apart from the types that come from elsewhere. -/
structure IsTypeIdentifier (name : String) : Prop extends IsIdentifier name where
  notForeign : name ∉ foreignTypes

/-- An identifier for a field, which may also be a keyword that is written raw. -/
def IsFieldIdentifier (name : String) : Prop :=
  IsIdentifier name ∨ ∃ keyword ∈ keywords, keyword ∉ pathKeywords ∧ name = "r#" ++ keyword

def IsAsciiText (text : String) : Prop :=
  ∀ c ∈ text.toList, isAscii c = true

instance : DecidablePred IsAsciiText := fun text =>
  List.decidableBAll (isAscii · = true) text.toList

/-! ## Letters -/

theorem isAlpha_of_isUpper (c : Char) (upper : c.isUpper = true) : c.isAlpha = true := by
  exact Bool.or_eq_true_iff.mpr (.inl upper)

theorem isAlpha_of_isLower (c : Char) (lower : c.isLower = true) : c.isAlpha = true := by
  exact Bool.or_eq_true_iff.mpr (.inr lower)

theorem isAlphanum_of_isAlpha {c : Char} (alpha : c.isAlpha = true) : c.isAlphanum = true := by
  exact Bool.or_eq_true_iff.mpr (.inl alpha)

/-! ## Starts of words -/

/-- A word that starts with a letter of the given case, or with an underscore and a digit. -/
def HasStart (isLetter : Char → Bool) (text : List Char) : Prop :=
  ∃ first rest, text = first :: rest ∧ (∀ c ∈ rest, IsWordChar c) ∧
    (isLetter first = true ∨ first = '_' ∧ ∃ digit more, rest = digit :: more ∧ digit.isDigit = true)

section

variable {isLetter : Char → Bool} {text more : List Char} {name : String}

theorem HasStart.append (starts : HasStart isLetter text) (word : ∀ c ∈ more, IsWordChar c) :
    HasStart isLetter (text ++ more) := by
  obtain ⟨first, rest, rfl, word', letter | ⟨rfl, digit, others, rfl, isDigit⟩⟩ := starts
  · exact ⟨first, rest ++ more, rfl, List.forall_mem_append.mpr ⟨word', word⟩, .inl letter⟩
  · exact ⟨'_', _, rfl, List.forall_mem_append.mpr ⟨word', word⟩,
      .inr ⟨rfl, digit, others ++ more, rfl, isDigit⟩⟩

theorem HasStart.forall_mem (starts : HasStart isLetter text)
    (alpha : ∀ c, isLetter c = true → c.isAlpha = true) : ∀ c ∈ text, IsWordChar c := by
  obtain ⟨first, rest, rfl, word, letter | ⟨rfl, -⟩⟩ := starts
  · exact List.forall_mem_cons.mpr ⟨.inl (isAlphanum_of_isAlpha (alpha first letter)), word⟩
  · exact List.forall_mem_cons.mpr ⟨.inr rfl, word⟩

/-- A word that starts so is an identifier unless it is a keyword. -/
theorem HasStart.isIdentifier (starts : HasStart isLetter name.toList)
    (alpha : ∀ c, isLetter c = true → c.isAlpha = true) (notKeyword : name ∉ keywords) :
    IsIdentifier name := by
  obtain ⟨first, rest, chars, word, start⟩ := starts
  refine ⟨⟨first, rest, chars, start.imp (alpha first) And.left, word⟩, ?_, notKeyword⟩
  rintro rfl
  obtain ⟨rfl, rfl⟩ := List.cons.inj chars
  rcases start with letter | ⟨-, digit, more, cons, -⟩
  · exact absurd (alpha _ letter) (by decide)
  · cases cons

end

/-! ## Exported names -/

theorem head?_flatMap {α : Type} {p : Char → Prop} {items : List α} {f : α → List Char}
    (each : ∀ item ∈ items, ∀ c, (f item).head? = some c → p c) :
    ∀ c, (items.flatMap f).head? = some c → p c := by
  intro c first
  rw [List.head?_flatMap] at first
  obtain ⟨item, member, found⟩ := List.exists_of_findSome?_eq_some first
  exact each item member c found

section

variable {rules : Rules} {name : String}

/-- The capital form of an ASCII letter or digit. -/
theorem capitalForm_of_isAscii {c : Char} (ascii : isAscii c = true) :
    capitalForm c = [c.toUpper] := by
  rw [capitalForm, if_pos ascii]

theorem isAlphanum_of_isAlphanumeric {c : Char} (ascii : isAscii c = true)
    (alphanumeric : isAlphanumeric c = true) : c.isAlphanum = true := by
  rwa [isAlphanumeric, if_pos ascii] at alphanumeric

/-- The first character of a rendered word is a capital letter or a digit. -/
theorem isUpper_or_isDigit_of_head?_renderWord {word : List Char}
    (known : ∀ c ∈ word, isAscii c = true ∧ c.isAlphanum = true) :
    ∀ c, (rules.renderWord word).head? = some c → c.isUpper = true ∨ c.isDigit = true := by
  have upper {c : Char} (ascii : isAscii c = true) :
      c.isAlphanum = true → c.toUpper.isUpper = true ∨ c.toUpper.isDigit = true :=
    Text.of_isAscii (p := fun c => c.isAlphanum = true →
      c.toUpper.isUpper = true ∨ c.toUpper.isDigit = true) (by decide) ascii
  intro c first
  cases word with
  | nil =>
      rw [Rules.renderWord] at first
      split at first <;> cases first
  | cons d rest =>
      rw [List.forall_mem_cons] at known
      have rendered : ∃ more, rules.renderWord (d :: rest) = d.toUpper :: more := by
        rw [Rules.renderWord]
        split
        · exact ⟨_, by rw [Text.capitalText, List.flatMap_cons, capitalForm_of_isAscii known.1.1]; rfl⟩
        · exact ⟨_, by rw [capitalize, capitalForm_of_isAscii known.1.1]; rfl⟩
      obtain ⟨more, rendered⟩ := rendered
      rw [rendered, List.head?_cons, Option.some.injEq] at first
      exact first ▸ upper known.1.1 known.1.2

theorem isAlphanum_toUpper {c : Char} (ascii : isAscii c = true) (alphanum : c.isAlphanum = true) :
    c.toUpper.isAlphanum = true :=
  Text.of_isAscii (p := fun c => c.isAlphanum = true → c.toUpper.isAlphanum = true) (by decide)
    ascii alphanum

theorem isAlphanum_joined (rules : Rules) {text : List Char} (ascii : ∀ c ∈ text, isAscii c = true) :
    ∀ c ∈ rules.joined text, c.isAlphanum = true := by
  refine rules.forall_mem_joined fun c member alphanumeric => ?_
  have alphanum := isAlphanum_of_isAlphanumeric (ascii c member) alphanumeric
  rw [capitalForm_of_isAscii (ascii c member), List.forall_mem_singleton]
  exact ⟨alphanum, isAlphanum_toUpper (ascii c member) alphanum⟩

theorem isUpper_or_isDigit_of_head?_joined (rules : Rules) {text : List Char}
    (ascii : ∀ c ∈ text, isAscii c = true) :
    ∀ c, (rules.joined text).head? = some c → c.isUpper = true ∨ c.isDigit = true := by
  rw [Rules.joined_eq]
  refine head?_flatMap fun word isWord => ?_
  refine isUpper_or_isDigit_of_head?_renderWord (forall_mem_splitWords ?_ word isWord)
  exact fun c member alphanumeric =>
    ⟨ascii c member, isAlphanum_of_isAlphanumeric (ascii c member) alphanumeric⟩

/-- Letters and digits that start with a capital letter, or with a digit behind an underscore. -/
inductive IsRendering : List Char → Prop where
  | letter {first : Char} {rest : List Char} (upper : first.isUpper = true)
      (others : ∀ c ∈ rest, c.isAlphanum = true) : IsRendering (first :: rest)
  | digit {first : Char} {rest : List Char} (digit : first.isDigit = true)
      (others : ∀ c ∈ rest, c.isAlphanum = true) : IsRendering ('_' :: first :: rest)

/-- The exported name of an ASCII name is a rendering. -/
theorem isRendering_exported (plain : rules.overrides = []) (ascii : IsAsciiText name) :
    IsRendering (rules.exported name).toList := by
  have alphanum := isAlphanum_joined rules ascii
  have start := isUpper_or_isDigit_of_head?_joined rules ascii
  rw [Rules.exported_eq plain, String.toList_ofList]
  cases rendered : rules.joined name.toList with
  | nil =>
      have unnamed : startIdentifier [] = ['U', 'n', 'n', 'a', 'm', 'e', 'd'] := by decide
      rw [unnamed]
      exact .letter (by decide) (List.all_eq_true.mp rfl)
  | cons first rest =>
      rw [rendered] at alphanum start
      obtain ⟨-, others⟩ := List.forall_mem_cons.mp alphanum
      rw [startIdentifier_cons]
      split
      · next digit => exact .digit digit others
      · next noDigit =>
          rcases start first rfl with upper | digit
          · exact .letter upper others
          · exact absurd digit noDigit

theorem IsRendering.hasStart {text : List Char} (rendering : IsRendering text) :
    HasStart Char.isUpper text := by
  cases rendering with
  | @letter first rest upper others =>
      exact ⟨first, rest, rfl, fun c member => .inl (others c member), .inl upper⟩
  | @digit first rest digit others =>
      refine ⟨'_', first :: rest, rfl, ?_, .inr ⟨rfl, first, rest, rfl, digit⟩⟩
      intro c member
      rcases List.mem_cons.mp member with rfl | member
      · exact .inl (Bool.or_eq_true_iff.mpr (.inr digit))
      · exact .inl (others c member)

/-- The exported name of an ASCII name starts with a capital letter, or with an underscore and a
digit. -/
theorem hasStart_exported (plain : rules.overrides = []) (ascii : IsAsciiText name) :
    HasStart Char.isUpper (rules.exported name).toList :=
  (isRendering_exported plain ascii).hasStart

end

/-! ## Types -/

/-- An underscore keeps the name of a type apart from those of the types from elsewhere. -/
theorem typeIdentifier_not_mem (target : String) : typeIdentifier target ∉ foreignTypes := by
  have apart : ∀ reserved ∈ reservedTypes, reserved ++ "_" ∉ foreignTypes := by decide
  have known : ∀ foreign ∈ foreignTypes, foreign ∈ reservedTypes := by decide
  rw [typeIdentifier]
  split
  · next reserved => exact apart target reserved
  · next free => exact mt (known target) free

theorem hasStart_typeIdentifier {target : String} (starts : HasStart Char.isUpper target.toList) :
    HasStart Char.isUpper (typeIdentifier target).toList := by
  rw [typeIdentifier]
  split
  · rw [String.toList_append]
    exact starts.append (List.forall_mem_singleton.mpr (.inr rfl))
  · exact starts

/-- `Self` is the only keyword that starts like a type. -/
theorem HasStart.not_mem_keywords {name : String} (starts : HasStart Char.isUpper name.toList)
    (apart : name ≠ "Self") : name ∉ keywords := by
  have small : ∀ keyword ∈ keywords, keyword = "Self" ∨
      keyword.toList.head?.any (fun c => c.isUpper || c == '_') = false := by
    decide
  obtain ⟨first, rest, chars, -, start⟩ := starts
  intro member
  have start : (first.isUpper || first == '_') = true := by
    rcases start with upper | ⟨rfl, -⟩
    · rw [upper, Bool.true_or]
    · rfl
  have apart := (small name member).resolve_left apart
  rw [chars, List.head?_cons, Option.any_some, start] at apart
  cases apart

theorem isTypeIdentifier_typeIdentifier {target : String}
    (starts : HasStart Char.isUpper target.toList) : IsTypeIdentifier (typeIdentifier target) := by
  have free := typeIdentifier_not_mem target
  have starts := hasStart_typeIdentifier starts
  have apart : typeIdentifier target ≠ "Self" := fun same => free (same ▸ by decide)
  exact ⟨starts.isIdentifier isAlpha_of_isUpper (starts.not_mem_keywords apart), free⟩

/-- An identifier stays one where it is used for a type. -/
theorem IsIdentifier.isTypeIdentifier {target : String} (legal : IsIdentifier target) :
    IsTypeIdentifier (typeIdentifier target) := by
  have escaped : ∀ reserved ∈ reservedTypes,
      reserved ++ "_" ≠ "_" ∧ reserved ++ "_" ∉ keywords := by
    decide
  refine ⟨?_, typeIdentifier_not_mem target⟩
  rw [typeIdentifier]
  split
  · next reserved =>
      obtain ⟨first, rest, chars, start, word⟩ := legal.word
      refine ⟨⟨first, rest ++ ['_'], ?_, start, ?_⟩, (escaped target reserved).1,
        (escaped target reserved).2⟩
      · rw [String.toList_append, chars]
        rfl
      · exact List.forall_mem_append.mpr ⟨word, List.forall_mem_singleton.mpr (.inr rfl)⟩
  · exact legal

/-! ## Fields -/

theorem isAscii_of_le {c last : Char} (ascii : last.toNat < 128) (below : c.val ≤ last.val) :
    isAscii c = true := by
  have bound : c.toNat ≤ last.toNat := UInt32.le_iff_toNat_le.mp below
  rw [isAscii, decide_eq_true_eq]
  omega

theorem isAscii_of_isWordChar {c : Char} (word : IsWordChar c) : isAscii c = true := by
  rcases word with alphanum | rfl
  · rcases Bool.or_eq_true_iff.mp alphanum with alpha | digit
    · rcases Bool.or_eq_true_iff.mp alpha with upper | lower
      · exact isAscii_of_le (show 'Z'.toNat < 128 by decide) (of_decide_eq_true upper).2
      · exact isAscii_of_le (show 'z'.toNat < 128 by decide)
          (of_decide_eq_true (Bool.and_eq_true_iff.mp lower).2)
    · exact isAscii_of_le (show '9'.toNat < 128 by decide)
        (of_decide_eq_true (Bool.and_eq_true_iff.mp digit).2)
  · rfl

/-- What is decided for every code below 128 holds of every character of a word. -/
theorem of_isWordChar {p : Char → Prop} (all : ∀ code < 128, p (Char.ofNat code)) {c : Char}
    (word : IsWordChar c) : p c :=
  Text.of_isAscii all (isAscii_of_isWordChar word)

theorem smallForm_of_isWordChar {c : Char} (word : IsWordChar c) :
    smallForm c = [c.toLower] ∧ IsWordChar c.toLower := by
  have small : IsWordChar c → IsWordChar c.toLower :=
    of_isWordChar (p := fun c => IsWordChar c → IsWordChar c.toLower) (by decide) word
  rw [smallForm, if_pos (isAscii_of_isWordChar word)]
  exact ⟨rfl, small word⟩

theorem forall_mem_snakeCaseAfter (previous : Char) {rest : List Char}
    (word : ∀ c ∈ rest, IsWordChar c) : ∀ c ∈ snakeCaseAfter previous rest, IsWordChar c := by
  induction rest generalizing previous with
  | nil => exact List.forall_mem_nil _
  | cons c rest ih =>
      rw [List.forall_mem_cons] at word
      obtain ⟨form, small⟩ := smallForm_of_isWordChar word.1
      rw [snakeCaseAfter, form, List.forall_mem_append, List.forall_mem_append,
        List.forall_mem_singleton]
      refine ⟨⟨?_, small⟩, ih c word.2⟩
      split
      · exact List.forall_mem_singleton.mpr (.inr rfl)
      · exact List.forall_mem_nil _

/-- In small letters a word starts as before. -/
theorem hasStart_snakeCase {target : List Char} (starts : HasStart Char.isUpper target) :
    HasStart Char.isLower (snakeCase target) := by
  obtain ⟨first, rest, rfl, word, upper | ⟨rfl, digit, more, rfl, isDigit⟩⟩ := starts
  · have isWord : IsWordChar first := .inl (isAlphanum_of_isAlpha (isAlpha_of_isUpper first upper))
    have lower : first.isUpper = true → first.toLower.isLower = true :=
      of_isWordChar (p := fun c => c.isUpper = true → c.toLower.isLower = true) (by decide) isWord
    rw [snakeCase, (smallForm_of_isWordChar isWord).1]
    exact ⟨_, _, rfl, forall_mem_snakeCaseAfter first word, .inl (lower upper)⟩
  · have isWord := word digit (List.mem_cons_self ..)
    have still : digit.isDigit = true → Text.isCapital digit = false ∧ digit.toLower = digit :=
      of_isWordChar (p := fun c => c.isDigit = true → Text.isCapital c = false ∧ c.toLower = c)
        (by decide) isWord
    obtain ⟨noCapital, same⟩ := still isDigit
    have cased : snakeCaseAfter '_' (digit :: more) = digit :: snakeCaseAfter digit more := by
      rw [snakeCaseAfter, startsWord, noCapital, Bool.false_and, (smallForm_of_isWordChar isWord).1,
        same]
      rfl
    have word := forall_mem_snakeCaseAfter '_' word
    rw [cased] at word
    rw [snakeCase, cased]
    exact ⟨'_', _, rfl, word, .inr ⟨rfl, digit, _, rfl, isDigit⟩⟩

/-- A keyword is written raw if it can be, and gets an underscore behind it otherwise. -/
theorem escapeKeyword_eq (identifier : String) :
    escapeKeyword identifier =
      if identifier ∈ pathKeywords then identifier ++ "_"
      else if identifier ∈ keywords then "r#" ++ identifier else identifier := by
  have strict : ∀ keyword, keyword ∈ strictKeywords ↔ keyword ∈ pathKeywords := by
    simp [strictKeywords, pathKeywords, or_comm, or_left_comm]
  have raw : ∀ keyword ∈ rawKeywords, keyword ∈ keywords := by decide
  have known : ∀ keyword ∈ keywords, keyword ∈ strictKeywords ∨ keyword ∈ rawKeywords := by decide
  rw [escapeKeyword]
  simp only [strict]
  split
  · rfl
  · next notPath =>
      have same : identifier ∈ rawKeywords ↔ identifier ∈ keywords :=
        ⟨raw identifier, fun keyword =>
          (known identifier keyword).resolve_left (mt (strict identifier).mp notPath)⟩
      simp only [same]

theorem isFieldIdentifier_fieldIdentifier {target : String}
    (starts : HasStart Char.isUpper target.toList) :
    IsFieldIdentifier (fieldIdentifier target) := by
  have escaped : ∀ keyword ∈ pathKeywords, keyword ++ "_" ∉ keywords := by decide
  have starts := hasStart_snakeCase starts
  rw [← String.toList_ofList (l := snakeCase target.toList)] at starts
  rw [fieldIdentifier, escapeKeyword_eq]
  split
  · next path =>
      refine .inl (HasStart.isIdentifier ?_ isAlpha_of_isLower (escaped _ path))
      rw [String.toList_append]
      exact starts.append (List.forall_mem_singleton.mpr (.inr rfl))
  · next notPath =>
      split
      · next keyword => exact .inr ⟨_, keyword, notPath, rfl⟩
      · next notKeyword => exact .inl (starts.isIdentifier isAlpha_of_isLower notKeyword)

end OptionSchema.Naming
