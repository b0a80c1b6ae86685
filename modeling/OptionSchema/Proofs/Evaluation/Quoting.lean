import OptionSchema.Evaluation.Request
import OptionSchema.Proofs.Text.Piece

/-!
# Reading quoted texts

The double-quoted strings of the expression language, and lists of them. A backslash takes the next
character, an unescaped quote ends a string, and an unescaped dollar sign with a brace behind it
starts an interpolation, so that the string denotes no text of its own. Line ends stand for
themselves. The three replacements that quote a text do no more than escape each character where it
has to be (`quotedString_eq`). So what is quoted is read as the text (`readString_quotedString`), and
a list of quoted texts as the texts (`readStrings_quoted`).
-/

namespace OptionSchema.Evaluation

variable {c : Char} {text rest behind : List Char}

/-! ## Reading strings -/

def unescaped : Char → Char
  | 'n' => '\n'
  | 'r' => '\r'
  | 't' => '\t'
  | c => c

/-- Reads a string behind its opening quote: the text that it denotes, and what is behind its closing
quote. There is none if the string has no end or an interpolation. -/
def readBody : List Char → Option (List Char × List Char)
  | [] => none
  | '"' :: rest => some ([], rest)
  | '\\' :: c :: rest => (readBody rest).map fun (text, behind) => (unescaped c :: text, behind)
  | '$' :: '{' :: _ => none
  | c :: rest => (readBody rest).map fun (text, behind) => (c :: text, behind)

def readString : List Char → Option (List Char × List Char)
  | '"' :: rest => readBody rest
  | _ => none

/-- A character that is not special is read as itself. -/
theorem readBody_cons (notQuote : c ≠ '"') (notBackslash : c ≠ '\\')
    (noInterpolation : c = '$' → rest.head? ≠ some '{') :
    readBody (c :: rest) = (readBody rest).map fun (text, behind) => (c :: text, behind) := by
  rw [readBody.eq_def]
  split
  · next same => cases same
  · next same => exact absurd (List.cons.inj same).1 notQuote
  · next same => exact absurd (List.cons.inj same).1 notBackslash
  · next same =>
      obtain ⟨dollar, rfl⟩ := List.cons.inj same
      exact absurd rfl (noInterpolation dollar)
  · next same =>
      obtain ⟨rfl, rfl⟩ := List.cons.inj same
      rfl

/-- What is behind a string is shorter than what has been read. -/
theorem length_of_readBody (read : readBody text = some (rest, behind)) :
    behind.length < text.length := by
  fun_induction readBody text generalizing rest with
  | case1 => cases read
  | case2 =>
      cases read
      exact Nat.lt_succ_self _
  | case3 c more ih =>
      obtain ⟨⟨first, last⟩, readMore, same⟩ := Option.map_eq_some_iff.mp read
      cases same
      exact Nat.lt_trans (ih readMore) (by simp only [List.length_cons]; omega)
  | case4 => cases read
  | case5 c more _ _ _ ih =>
      obtain ⟨⟨first, last⟩, readMore, same⟩ := Option.map_eq_some_iff.mp read
      cases same
      exact Nat.lt_trans (ih readMore) (by simp only [List.length_cons]; omega)

def isGap (c : Char) : Bool :=
  c == ' ' || c == '\t' || c == '\r' || c == '\n'

def readItems (text : List Char) : Option (List (List Char)) :=
  match _ : text.dropWhile isGap with
  | [']'] => some []
  | '"' :: rest =>
      match _ : readBody rest with
      | some (item, behind) => (readItems behind).map (item :: ·)
      | none => none
  | _ => none
termination_by text.length
decreasing_by
  next start read =>
    have shorter := length_of_readBody read
    have suffix : (text.dropWhile isGap).length ≤ text.length :=
      (List.dropWhile_suffix isGap).length_le
    rw [start, List.length_cons] at suffix
    omega

def readStrings : List Char → Option (List (List Char))
  | '[' :: rest => readItems rest
  | _ => none

/-! ## Escaping -/

/-- The text with backslashes where they are needed: in front of a backslash, a quote, and a dollar
sign with a brace behind it. -/
def escaped : List Char → List Char
  | [] => []
  | '$' :: '{' :: rest => '\\' :: '$' :: '{' :: escaped rest
  | '\\' :: rest => '\\' :: '\\' :: escaped rest
  | '"' :: rest => '\\' :: '"' :: escaped rest
  | c :: rest => c :: escaped rest

/-- A brace at the start of an escaped text is one at the start of the text. -/
theorem head?_escaped (start : (escaped text ++ '"' :: rest).head? = some '{') :
    text.head? = some '{' := by
  fun_cases escaped text <;> simp_all [escaped]

/-- An escaped text is read as the text. -/
theorem readBody_escaped (text rest : List Char) :
    readBody (escaped text ++ '"' :: rest) = some (text, rest) := by
  fun_induction escaped text with
  | case1 => rfl
  | case2 more ih =>
      have brace : readBody ('{' :: (escaped more ++ '"' :: rest)) = some ('{' :: more, rest) := by
        rw [readBody_cons (by decide) (by decide) fun same => absurd same (by decide), ih]
        rfl
      simp only [List.cons_append, readBody, brace]
      rfl
  | case3 more ih =>
      simp only [List.cons_append, readBody, ih]
      rfl
  | case4 more ih =>
      simp only [List.cons_append, readBody, ih]
      rfl
  | case5 c more notInterpolation notBackslash notQuote ih =>
      have noBrace (dollar : c = '$') : (escaped more ++ '"' :: rest).head? ≠ some '{' := by
        intro brace
        obtain ⟨behind, rfl⟩ := List.head?_eq_some_iff.mp (head?_escaped brace)
        exact notInterpolation behind dollar rfl
      rw [List.cons_append, readBody_cons notQuote notBackslash noBrace, ih]
      rfl

/-- What the first two replacements put for a character. -/
def doubled (c : Char) : List Char :=
  if c = '\\' ∨ c = '"' then ['\\', c] else [c]

theorem replaceAll_quotes (text : List Char) :
    Text.replaceAll ['"'] ['\\', '"'] (Text.replaceAll ['\\'] ['\\', '\\'] text) =
      text.flatMap doubled := by
  rw [Text.replaceAll_singleton, Text.replaceAll_singleton, List.flatMap_assoc]
  refine List.flatMap_congr fun c _ => ?_
  by_cases backslash : c = '\\'
  · subst backslash
    rfl
  · by_cases isQuote : c = '"'
    · subst isQuote
      rfl
    · simp [doubled, backslash, isQuote]

theorem head?_flatMap_doubled (start : (text.flatMap doubled).head? = some '{') :
    text.head? = some '{' := by
  cases text with
  | nil => cases start
  | cons c more =>
      rw [List.flatMap_cons, doubled] at start
      split at start
      · cases start
      · exact start

theorem replaceAll_interpolation (text : List Char) :
    Text.replaceAll ['$', '{'] ['\\', '$', '{'] (text.flatMap doubled) = escaped text := by
  change Text.replaceFrom ['$', '{'] ['\\', '$', '{'] 0 (text.flatMap doubled) = _
  have other {c : Char} (notDollar : c ≠ '$') (more : List Char) : ¬ ['$', '{'] <+: c :: more :=
    fun start => notDollar (List.cons_prefix_cons.mp start).1.symm
  fun_induction escaped text with
  | case1 => rfl
  | case2 more ih =>
      rw [← ih]
      exact Text.replaceFrom_part '$' ['{'] _ (more.flatMap doubled)
  | case3 more ih =>
      rw [← ih]
      change Text.replaceFrom _ _ 0 ('\\' :: '\\' :: more.flatMap doubled) = _
      rw [Text.replaceFrom_cons (other (by decide) _), Text.replaceFrom_cons (other (by decide) _)]
  | case4 more ih =>
      rw [← ih]
      change Text.replaceFrom _ _ 0 ('\\' :: '"' :: more.flatMap doubled) = _
      rw [Text.replaceFrom_cons (other (by decide) _), Text.replaceFrom_cons (other (by decide) _)]
  | case5 c more notInterpolation notBackslash notQuote ih =>
      have apart : ¬ ['$', '{'] <+: c :: more.flatMap doubled := by
        rintro ⟨behind, same⟩
        obtain ⟨dollar, brace⟩ := List.cons.inj same
        obtain ⟨others, rfl⟩ := List.head?_eq_some_iff.mp
          (head?_flatMap_doubled (brace ▸ rfl : (more.flatMap doubled).head? = some '{'))
        exact notInterpolation others dollar.symm rfl
      have alone : doubled c = [c] := if_neg (not_or.mpr ⟨notBackslash, notQuote⟩)
      rw [List.flatMap_cons, alone, List.singleton_append, Text.replaceFrom_cons apart, ih]

/-- Quoting escapes each character where it has to be. -/
theorem quotedString_eq (text : List Char) : quotedString text = '"' :: (escaped text ++ ['"']) := by
  rw [quotedString, replaceAll_quotes, replaceAll_interpolation]
  rfl

/-- A quoted text is read as the text, whatever is behind it. -/
theorem readString_quotedString (text rest : List Char) :
    readString (quotedString text ++ rest) = some (text, rest) := by
  rw [quotedString_eq, List.cons_append, List.append_assoc]
  exact readBody_escaped text rest

/-! ## Lists of quoted texts -/

theorem readItems_space (text : List Char) : readItems (' ' :: text) = readItems text := by
  rw [readItems.eq_def, readItems.eq_def text]
  rfl

theorem readItems_quotedString (item rest : List Char) :
    readItems (quotedString item ++ rest) = (readItems rest).map (item :: ·) := by
  have start : (quotedString item ++ rest).dropWhile isGap =
      '"' :: (escaped item ++ '"' :: rest) := by
    rw [quotedString_eq, List.cons_append, List.append_assoc]
    rfl
  rw [readItems.eq_def, start]
  split
  · next done => cases done
  · next same =>
      cases same
      split
      · next read =>
          rw [readBody_escaped] at read
          cases read
          rfl
      · next unread =>
          rw [readBody_escaped] at unread
          cases unread
  · next other => exact absurd rfl (other _)

/-- A list of quoted texts with blanks between them is read as the texts. -/
theorem readStrings_quoted (items : List (List Char)) :
    readStrings ('[' :: (items.flatMap (' ' :: quotedString ·) ++ [' ', ']'])) = some items := by
  change readItems _ = some items
  induction items with
  | nil =>
      rw [readItems.eq_def]
      rfl
  | cons item items ih =>
      rw [List.flatMap_cons, List.cons_append, List.cons_append, List.append_assoc, readItems_space,
        readItems_quotedString, ih]
      rfl

/-- The options path is absent if it is empty. -/
theorem Request.optionsPathList?_eq_none_iff {request : Request} :
    request.optionsPathList? = none ↔ request.optionsPath = [] := by
  rw [optionsPathList?]
  split
  · next empty => exact iff_of_true rfl (List.isEmpty_iff.mp empty)
  · next filled => exact iff_of_false nofun fun empty => filled (List.isEmpty_iff.mpr empty)

theorem toList_quotedNames (first : String) (others : List String) :
    (" ".intercalate ((first :: others).map quote)).toList =
      quotedString first.toList ++ (others.map String.toList).flatMap (' ' :: quotedString ·) := by
  have quoted (name : String) : (quote name).toList = quotedString name.toList :=
    String.toList_ofList
  calc (" ".intercalate ((first :: others).map quote)).toList
    _ = [' '].intercalate
          (quotedString first.toList :: others.map fun name => quotedString name.toList) := by
      simp only [String.toList_intercalate, List.map_map, List.map_cons, Function.comp_def, quoted]
      rfl
    _ = _ := by rw [← Text.append_flatMap_eq_intercalate, List.flatMap_map, List.flatMap_map]

/-- The options path of a request is read back from the list of its names. -/
theorem Request.readStrings_optionsPathList {request : Request} {list : String}
    (stated : request.optionsPathList? = some list) :
    readStrings list.toList = some (request.optionsPath.map String.toList) := by
  rw [optionsPathList?] at stated
  split at stated
  · cases stated
  · next filled =>
    cases stated
    obtain ⟨first, others, path⟩ : ∃ first others, request.optionsPath = first :: others :=
      List.exists_cons_of_ne_nil fun empty => filled (List.isEmpty_iff.mpr empty)
    have bracketed (names : String) :
        (s!"[ {names} ]").toList = '[' :: ' ' :: (names.toList ++ [' ', ']']) := by
      rw [String.toList_append, String.toList_append]
      rfl
    rw [bracketed, path, toList_quotedNames]
    exact readStrings_quoted ((first :: others).map String.toList)

end OptionSchema.Evaluation
