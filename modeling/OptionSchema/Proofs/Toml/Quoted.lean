import OptionSchema.Proofs.Json.Token
import OptionSchema.Proofs.Text.Literal
import OptionSchema.Proofs.Text.Piece
import OptionSchema.Toml.Write

/-!
# Reading written strings

A text is read back from each of the forms in which it is written. Main statement:
`quoted?_stringText`.
-/

namespace OptionSchema.Toml

open Json (NotNext notNext_cons)

def isQuote (c : Char) : Bool :=
  c == '"' || c == '\''

variable {c quote : Char} {text written rest : List Char} {fuel : Nat}

/-- A character of a kind is none that is not of that kind. -/
theorem ne_of_kind {kind : Char → Bool} {d : Char} (holds : kind c = true) (fails : kind d = false) :
    c ≠ d := by
  rintro rfl
  rw [holds] at fails
  cases fails

theorem eq_of_isQuote (quotes : isQuote c = true) : c = '"' ∨ c = '\'' := by
  simpa [isQuote] using quotes

theorem isQuote_eq_false (notDouble : c ≠ '"') (notSingle : c ≠ '\'') : isQuote c = false := by
  simp [isQuote, notDouble, notSingle]

/-! ## Characters and escapes -/

def escapeDigits (n : Nat) : List Char :=
  let digits := (Text.hexadecimal n).map Char.toUpper
  List.replicate (4 - digits.length) '0' ++ digits

/-- The digits of every control character can be read. -/
theorem escapeDigits_spec : ∀ n < 0x80, (escapeDigits n).length = 4 ∧
    (escapeDigits n).all Text.isHexDigit = true ∧ Text.digitsValue 16 (escapeDigits n) = n := by
  decide

theorem codePoint?_escapeDigits {n : Nat} (low : n < 0x80) (rest : List Char) :
    codePoint? 4 (escapeDigits n ++ rest) = some (Char.ofNat n, rest) := by
  obtain ⟨four, hexadecimal, value⟩ := escapeDigits_spec n low
  have valid : n.isValidChar := .inl (Nat.lt_trans low (by decide))
  have taken : (escapeDigits n ++ rest).take 4 = escapeDigits n := List.take_left' four
  have dropped : (escapeDigits n ++ rest).drop 4 = rest := List.drop_left' four
  simp only [codePoint?, taken, dropped, four, hexadecimal, value, valid, beq_self_eq_true,
    Bool.and_self, decide_true, if_true]

theorem toNat_lt_of_needsEscape (needs : needsEscape c = true) : c.toNat < 0x80 := by
  simp only [needsEscape, Bool.and_eq_true, Bool.or_eq_true, decide_eq_true_eq, beq_iff_eq] at needs
  omega

/-- What needs no escape is a line feed or can stand in quotes as it is. -/
theorem isPlain_or_of_not_needsEscape (free : needsEscape c = false) :
    isPlain c = true ∨ c = '\n' := by
  by_cases feed : c = '\n'
  · exact .inr feed
  · by_cases tab : c = '\t'
    · exact .inl (tab ▸ rfl)
    · have visible : 0x20 ≤ c.toNat ∧ c.toNat ≠ 0x7F := by simpa [needsEscape, feed, tab] using free
      refine .inl ?_
      simpa [isPlain] using .inr visible

/-- Behind a backslash, an escape is read as a character. -/
def Escapes (c : Char) (escape : List Char) : Prop :=
  (∀ rest, escaped? (escape ++ rest) = some (c, rest)) ∧
    ∀ rest, joinsLines (escape ++ rest) = false

/-- How a character is written between double quotes: as an escape, or as it is. -/
theorem escapedChar_cases (c : Char) :
    (∃ escape, escapedChar c = '\\' :: escape ∧ Escapes c escape) ∨
      escapedChar c = [c] ∧ isPlain c = true ∧ c ≠ '"' ∧ c ≠ '\\' ∧ c ≠ '\n' := by
  unfold escapedChar
  split
  · exact .inl ⟨['b'], rfl, fun _ => rfl, fun _ => rfl⟩
  · exact .inl ⟨['t'], rfl, fun _ => rfl, fun _ => rfl⟩
  · exact .inl ⟨['n'], rfl, fun _ => rfl, fun _ => rfl⟩
  · exact .inl ⟨['f'], rfl, fun _ => rfl, fun _ => rfl⟩
  · exact .inl ⟨['r'], rfl, fun _ => rfl, fun _ => rfl⟩
  · exact .inl ⟨['"'], rfl, fun _ => rfl, fun _ => rfl⟩
  · exact .inl ⟨['\\'], rfl, fun _ => rfl, fun _ => rfl⟩
  · next _ _ notFeed _ _ notQuote notBackslash =>
      by_cases needs : needsEscape c = true
      · rw [if_pos needs]
        refine .inl ⟨'u' :: escapeDigits c.toNat, rfl, fun rest => ?_, fun _ => rfl⟩
        have read := codePoint?_escapeDigits (toNat_lt_of_needsEscape needs) rest
        rw [Char.ofNat_toNat] at read
        rw [List.cons_append]
        exact read
      · rw [if_neg needs]
        have plain := isPlain_or_of_not_needsEscape (Bool.eq_false_iff.mpr needs)
        exact .inr ⟨rfl, plain.resolve_right notFeed, notQuote, notBackslash, notFeed⟩

/-- What is written for a character is not empty. -/
theorem escapedChar_ne_nil (c : Char) : escapedChar c ≠ [] := by
  rcases escapedChar_cases c with ⟨escape, same, -⟩ | ⟨same, -⟩
  · rw [same]
    exact List.cons_ne_nil _ _
  · rw [same]
    exact List.cons_ne_nil _ _

/-! ## Strings on one line -/

theorem basic?_cons_plain (plain : isPlain c = true) (notQuote : c ≠ '"') (notBackslash : c ≠ '\\') :
    basic? (fuel + 1) (c :: rest) = (basic? fuel rest).map fun (text, rest) => (c :: text, rest) := by
  rw [basic?, if_pos plain]
  · cases basic? fuel rest <;> rfl
  · exact notQuote
  · exact notBackslash

theorem basic?_escape {escape : List Char} (escapes : Escapes c escape) :
    basic? (fuel + 1) ('\\' :: (escape ++ rest)) =
      (basic? fuel rest).map fun (text, rest) => (c :: text, rest) := by
  rw [basic?, escapes.1, Option.bind_eq_bind, Option.bind_some]
  dsimp only
  cases basic? fuel rest <;> rfl

theorem basic?_escapedChar (c : Char) :
    basic? (fuel + 1) (escapedChar c ++ rest) =
      (basic? fuel rest).map fun (text, rest) => (c :: text, rest) := by
  rcases escapedChar_cases c with ⟨escape, same, escapes⟩ | ⟨same, plain, notQuote, notBackslash, -⟩
  · rw [same, List.cons_append]
    exact basic?_escape escapes
  · rw [same, List.singleton_append]
    exact basic?_cons_plain plain notQuote notBackslash

theorem basic?_escaped (enough : text.length < fuel) :
    basic? fuel (text.flatMap escapedChar ++ '"' :: rest) = some (text, rest) := by
  induction text generalizing fuel with
  | nil =>
      cases fuel with
      | zero => cases enough
      | succ fuel => rfl
  | cons c text ih =>
      cases fuel with
      | zero => cases enough
      | succ fuel =>
          rw [List.flatMap_cons, List.append_assoc, basic?_escapedChar,
            ih (Nat.lt_of_succ_lt_succ enough)]
          rfl

theorem length_le_flatMap_escapedChar (text : List Char) :
    text.length ≤ (text.flatMap escapedChar).length := by
  induction text with
  | nil => exact Nat.le_refl _
  | cons c text ih =>
      have some' := List.length_pos_iff.mpr (escapedChar_ne_nil c)
      rw [List.flatMap_cons, List.length_append, List.length_cons]
      omega

/-- A text on one line is not taken for the start of one on several lines. -/
theorem not_tripled (ahead : NotNext isQuote rest) (isQuote' : isQuote quote = true)
    (first : ∀ c ∈ written.head?, c ≠ quote) :
    ¬ ∃ more, written ++ quote :: rest = quote :: quote :: more := by
  rintro ⟨more, same⟩
  cases written with
  | nil =>
      cases rest with
      | nil => cases same
      | cons c rest =>
          rw [notNext_cons] at ahead
          rw [← (List.cons.inj (List.cons.inj same).2).1, ahead] at isQuote'
          cases isQuote'
  | cons c written => exact first c rfl (List.cons.inj same).1

theorem quoted?_basic (single : ∀ more, text ≠ '"' :: '"' :: more) :
    quoted? ('"' :: text) =
      (basic? (text.length + 2) text).map fun (text, rest) => (String.ofList text, rest) := by
  unfold quoted?
  dsimp only
  split
  · next more same => exact absurd (List.cons.inj same).2 (single more)
  · next same => exact absurd (List.cons.inj same).1 (by decide)
  · next same =>
      cases same
      rfl
  · next same => exact absurd (List.cons.inj same).1 (by decide)
  · next other _ => exact absurd rfl (other text)

theorem quoted?_literal (single : ∀ more, text ≠ '\'' :: '\'' :: more) :
    quoted? ('\'' :: text) =
      (literal? text).map fun (text, rest) => (String.ofList text, rest) := by
  unfold quoted?
  dsimp only
  split
  · next same => exact absurd (List.cons.inj same).1 (by decide)
  · next more same => exact absurd (List.cons.inj same).2 (single more)
  · next same => exact absurd (List.cons.inj same).1 (by decide)
  · next same =>
      cases same
      rfl
  · next other => exact absurd rfl (other text)

/-- The first character of a text in double quotes is not one of them. -/
theorem head?_flatMap_escapedChar_ne (text : List Char) :
    ∀ c ∈ (text.flatMap escapedChar).head?, c ≠ '"' := by
  intro c first
  cases text with
  | nil => cases first
  | cons d text =>
      rw [List.flatMap_cons, List.head?_append_of_ne_nil _ (escapedChar_ne_nil d)] at first
      rcases escapedChar_cases d with ⟨escape, same, -⟩ | ⟨same, -, notQuote, -⟩
      · rw [same] at first
        cases first
        decide
      · rw [same] at first
        cases first
        exact notQuote

theorem basicString_append (text rest : List Char) :
    basicString text ++ rest = '"' :: (text.flatMap escapedChar ++ '"' :: rest) := by
  simp [basicString]

/-- There are no three quotes at the start of a text between double quotes. -/
theorem basicString_single (text : List Char) (ahead : NotNext isQuote rest) (more : List Char) :
    text.flatMap escapedChar ++ '"' :: rest ≠ '"' :: '"' :: more :=
  fun same => not_tripled ahead rfl (head?_flatMap_escapedChar_ne text) ⟨more, same⟩

theorem quoted?_basicString (text : List Char) (ahead : NotNext isQuote rest) :
    quoted? (basicString text ++ rest) = some (String.ofList text, rest) := by
  have enough : text.length < (text.flatMap escapedChar ++ '"' :: rest).length + 2 := by
    have bound := length_le_flatMap_escapedChar text
    rw [List.length_append]
    omega
  rw [basicString_append, quoted?_basic (basicString_single text ahead), basic?_escaped enough]
  rfl

theorem literal?_plain (plain : text.all isPlain = true) (noQuote : '\'' ∉ text) :
    literal? (text ++ '\'' :: rest) = some (text, rest) := by
  induction text with
  | nil => rfl
  | cons c text ih =>
      rw [List.all_cons, Bool.and_eq_true] at plain
      rw [List.mem_cons, not_or] at noQuote
      rw [List.cons_append, literal?, if_neg (by simpa using Ne.symm noQuote.1), if_pos plain.1,
        ih plain.2 noQuote.2]
      rfl

theorem literalString_append (text rest : List Char) :
    literalString text ++ rest = '\'' :: (text ++ '\'' :: rest) := by
  simp [literalString]

/-- There are no three quotes at the start of a text between single quotes. -/
theorem literalString_single (noQuote : '\'' ∉ text) (ahead : NotNext isQuote rest)
    (more : List Char) : text ++ '\'' :: rest ≠ '\'' :: '\'' :: more := by
  intro same
  refine not_tripled ahead rfl ?_ ⟨more, same⟩
  rintro c first rfl
  exact noQuote (List.mem_of_mem_head? first)

theorem quoted?_literalString (plain : text.all isPlain = true) (noQuote : '\'' ∉ text)
    (ahead : NotNext isQuote rest) :
    quoted? (literalString text ++ rest) = some (String.ofList text, rest) := by
  rw [literalString_append, quoted?_literal (literalString_single noQuote ahead),
    literal?_plain plain noQuote]
  rfl

/-! ## Strings on several lines -/

/-- A text is written between three quotes, behind some of these quotes in a row: two of them may
stand in a row, and any other character stands as something that the reader takes for it. -/
inductive Lined (read : Nat → List Char → Option (List Char × List Char)) (quote : Char) :
    Nat → List Char → List Char → Prop where
  | nil {row : Nat} : Lined read quote row [] []
  | quote {row : Nat} {text written : List Char} : row < 2 → Lined read quote (row + 1) text written →
      Lined read quote row (quote :: text) (quote :: written)
  | other {row : Nat} {c d : Char} {text spelled written : List Char} : d ≠ quote →
      (∀ fuel rest, read (fuel + 1) (d :: (spelled ++ rest)) =
        (read fuel rest).map fun (text, rest) => (c :: text, rest)) →
      Lined read quote 0 text written → Lined read quote row (c :: text) (d :: (spelled ++ written))

structure ReadsLines (read : Nat → List Char → Option (List Char × List Char)) (quote : Char) :
    Prop where
  closes : ∀ fuel text, startsTripled quote text = true →
    read (fuel + 1) text = some (closing quote text)
  quotes : ∀ fuel rest, startsTripled quote (quote :: rest) = false →
    read (fuel + 1) (quote :: rest) = (read fuel rest).map fun (text, rest) => (quote :: text, rest)
  opens : ∀ text, quoted? (tripled quote ++ text) =
    (read (text.length + 4) (dropLineFeed text)).map fun (text, rest) => (String.ofList text, rest)

section

variable {read : Nat → List Char → Option (List Char × List Char)} {row : Nat}

/-- Up to two quotes before the closing ones belong to the text. -/
theorem closing_replicate {count : Nat} (few : count ≤ 2) (ahead : NotNext (· == quote) rest) :
    closing quote (List.replicate count quote ++ (tripled quote ++ rest)) =
      (List.replicate count quote, rest) := by
  have quotes : List.replicate count quote ++ (tripled quote ++ rest) =
      List.replicate (count + 3) quote ++ rest := by
    rw [← List.append_assoc, List.replicate_add]
    rfl
  have all : (List.replicate (count + 3) quote).all (· == quote) = true := by simp
  have run : (List.replicate (count + 3) quote ++ rest).takeWhile (· == quote) =
      List.replicate (count + 3) quote := by
    have spanned := Json.span_run all ahead
    rw [List.span_eq_takeWhile_dropWhile] at spanned
    exact (Prod.mk.inj spanned).1
  have size : min (List.replicate (count + 3) quote).length 5 = count + 3 := by
    rw [List.length_replicate]
    omega
  simp only [closing, quotes, run, size, Nat.add_sub_cancel,
    List.drop_left' (List.length_replicate ..)]

/-- A character that stands for itself. -/
theorem Lined.self (other : c ≠ quote)
    (reads : ∀ fuel rest, read (fuel + 1) (c :: rest) =
      (read fuel rest).map fun (text, rest) => (c :: text, rest))
    (lined : Lined read quote 0 text written) :
    Lined read quote row (c :: text) (c :: written) :=
  @Lined.other read quote row c c text [] written other reads lined

theorem startsTripled_of_ne {d : Char} (other : d ≠ quote) :
    startsTripled quote (quote :: d :: rest) = false ∧ startsTripled quote (d :: rest) = false := by
  simp [startsTripled, List.isPrefixOf, Ne.symm other]

/-- Three quotes in a text are closing ones and some before them. -/
theorem Lined.replicate_of_startsTripled (lined : Lined read quote (row + 1) text written)
    (few : row < 2) (tripled' : startsTripled quote (quote :: (written ++ rest)) = true) :
    ∃ count, row + 1 + count ≤ 2 ∧ text = List.replicate count quote ∧
      written = List.replicate count quote := by
  cases lined with
  | nil => exact ⟨0, few, rfl, rfl⟩
  | other other _ _ =>
      rw [List.cons_append, (startsTripled_of_ne other).1] at tripled'
      cases tripled'
  | quote fewer inner =>
      cases inner with
      | nil => exact ⟨1, fewer, rfl, rfl⟩
      | quote fewest _ => omega
      | @other _ _ d _ spelled written other _ _ =>
          simp [startsTripled, List.isPrefixOf, Ne.symm other] at tripled'

/-- A text that is written between three quotes is read back. -/
theorem Lined.read_eq (lined : Lined read quote row text written) (reads : ReadsLines read quote)
    (ahead : NotNext (· == quote) rest) (enough : text.length < fuel) :
    read fuel (written ++ (tripled quote ++ rest)) = some (text, rest) := by
  induction lined generalizing fuel with
  | nil =>
      obtain ⟨fuel, rfl⟩ := Nat.exists_eq_add_one_of_ne_zero (Nat.ne_zero_of_lt enough)
      rw [reads.closes _ _ (by simp [tripled, startsTripled, List.isPrefixOf])]
      exact congrArg some (@closing_replicate quote rest 0 (Nat.zero_le _) ahead)
  | @quote row text written few inner ih =>
      obtain ⟨fuel, rfl⟩ := Nat.exists_eq_add_one_of_ne_zero (Nat.ne_zero_of_lt enough)
      cases isTripled : startsTripled quote (quote :: (written ++ (tripled quote ++ rest))) with
      | true =>
          -- only quotes are left of the text, and the reader takes them with the closing ones
          obtain ⟨count, fits, rfl, rfl⟩ := inner.replicate_of_startsTripled few isTripled
          rw [List.cons_append, reads.closes _ _ isTripled]
          exact congrArg some (@closing_replicate quote rest (count + 1) (by omega) ahead)
      | false =>
          rw [List.cons_append, reads.quotes _ _ isTripled, ih (Nat.lt_of_succ_lt_succ enough)]
          rfl
  | other _ spelled inner ih =>
      obtain ⟨fuel, rfl⟩ := Nat.exists_eq_add_one_of_ne_zero (Nat.ne_zero_of_lt enough)
      rw [List.cons_append, List.append_assoc, spelled, ih (Nat.lt_of_succ_lt_succ enough)]
      rfl

theorem ne_return_of_isPlain_or (plain : isPlain c = true ∨ c = '\n') : c ≠ '\r' := by
  rintro rfl
  revert plain
  decide

theorem multilineBasic?_cons (notTripled : startsTripled '"' (c :: rest) = false)
    (plain : isPlain c = true ∨ c = '\n') (notBackslash : c ≠ '\\') :
    multilineBasic? (fuel + 1) (c :: rest) =
      (multilineBasic? fuel rest).map fun (text, rest) => (c :: text, rest) := by
  have isText : (isPlain c || c == '\n') = true := by simpa using plain
  rw [multilineBasic?, if_neg (by rw [notTripled]; decide), if_pos isText]
  · cases multilineBasic? fuel rest <;> rfl
  · exact notBackslash
  · exact fun _ isReturn _ => ne_return_of_isPlain_or plain isReturn

theorem multilineBasic?_escape {escape : List Char} (escapes : Escapes c escape) :
    multilineBasic? (fuel + 1) ('\\' :: (escape ++ rest)) =
      (multilineBasic? fuel rest).map fun (text, rest) => (c :: text, rest) := by
  rw [multilineBasic?, if_neg (by simp [startsTripled, List.isPrefixOf])]
  dsimp only
  rw [escapes.2, if_neg (by decide), escapes.1, Option.bind_eq_bind, Option.bind_some]
  dsimp only
  cases multilineBasic? fuel rest <;> rfl

theorem multilineLiteral?_cons (notTripled : startsTripled '\'' (c :: rest) = false)
    (plain : isPlain c = true ∨ c = '\n') :
    multilineLiteral? (fuel + 1) (c :: rest) =
      (multilineLiteral? fuel rest).map fun (text, rest) => (c :: text, rest) := by
  have isText : (isPlain c || c == '\n') = true := by simpa using plain
  rw [multilineLiteral?, if_neg (by rw [notTripled]; decide), if_pos isText]
  · cases multilineLiteral? fuel rest <;> rfl
  · exact fun _ isReturn _ => ne_return_of_isPlain_or plain isReturn

theorem readsLines_basic : ReadsLines multilineBasic? '"' where
  closes fuel text isTripled := by
    rw [multilineBasic?.eq_def]
    dsimp only
    rw [if_pos isTripled]
  quotes fuel rest notTripled := multilineBasic?_cons notTripled (.inl rfl) (by decide)
  opens _ := rfl

theorem readsLines_literal : ReadsLines multilineLiteral? '\'' where
  closes fuel text isTripled := by
    rw [multilineLiteral?.eq_def]
    dsimp only
    rw [if_pos isTripled]
  quotes fuel rest notTripled := multilineLiteral?_cons notTripled (.inl rfl)
  opens _ := rfl

/-- The lines between three double quotes. -/
theorem lined_escapedLines (row : Nat) (text : List Char) :
    Lined multilineBasic? '"' row text (escapedLines row text) := by
  induction text generalizing row with
  | nil => exact .nil
  | cons c text ih =>
      have plainly (other : c ≠ '"') (plain : isPlain c = true ∨ c = '\n') (notBackslash : c ≠ '\\') :
          Lined multilineBasic? '"' row (c :: text) (c :: escapedLines 0 text) :=
        .self other (fun fuel rest =>
          multilineBasic?_cons (startsTripled_of_ne other).2 plain notBackslash) (ih 0)
      rw [escapedLines]
      split
      · next isFeed =>
          obtain rfl := beq_iff_eq.mp isFeed
          exact plainly (by decide) (.inr rfl) (by decide)
      · split
        · next isRow =>
            obtain ⟨isQuote, few⟩ := Bool.and_eq_true_iff.mp isRow
            obtain rfl := beq_iff_eq.mp isQuote
            exact .quote (of_decide_eq_true few) (ih (row + 1))
        · rcases escapedChar_cases c with
            ⟨escape, same, escapes⟩ | ⟨same, plain, notQuote, notBackslash, -⟩
          · rw [same, List.cons_append]
            exact .other (by decide) (fun fuel rest => multilineBasic?_escape escapes) (ih 0)
          · rw [same]
            exact plainly notQuote (.inl plain) notBackslash

/-- The lines between three single quotes. -/
theorem lined_self {first : List Char} {others : List (List Char)}
    (plain : ∀ c ∈ text, isPlain c = true ∨ c = '\n')
    (rows : Text.cut (· != '\'') text = first :: others) (few : row + first.length ≤ 2)
    (fewLater : ∀ piece ∈ others, piece.length ≤ 2) :
    Lined multilineLiteral? '\'' row text text := by
  -- the first piece is what is left of the row of quotes that is open
  induction text generalizing row first others with
  | nil => exact .nil
  | cons c text ih =>
      obtain ⟨plainFirst, plainRest⟩ := List.forall_mem_cons.mp plain
      rw [Text.cut] at rows
      split at rows
      · next other =>
          obtain ⟨rfl, rfl⟩ := List.cons.inj rows
          have notQuote : c ≠ '\'' := by simpa using other
          obtain ⟨next, later, rowsOn⟩ := Text.exists_cut_eq_cons (· != '\'') text
          rw [rowsOn] at fewLater
          obtain ⟨fewNext, fewOthers⟩ := List.forall_mem_cons.mp fewLater
          refine .self notQuote (fun fuel rest => ?_)
            (ih plainRest rowsOn ((Nat.zero_add _).symm ▸ fewNext) fewOthers)
          exact multilineLiteral?_cons (startsTripled_of_ne notQuote).2 plainFirst
      · next isRow =>
          obtain rfl : c = '\'' := by simpa using isRow
          obtain ⟨next, later, rowsOn⟩ := Text.exists_cut_eq_cons (· != '\'') text
          rw [rowsOn] at rows
          obtain ⟨rfl, rfl⟩ := List.cons.inj rows
          rw [List.length_cons] at few
          exact .quote (by omega) (ih plainRest rowsOn (by omega) fewLater)

theorem length_le_longestRow {piece : List Char} (isPiece : piece ∈ Text.cut (· != quote) text) :
    piece.length ≤ longestRow quote text := by
  have below (lengths : List Nat) : ∀ start, start ≤ lengths.foldl max start ∧
      ∀ length ∈ lengths, length ≤ lengths.foldl max start := by
    induction lengths with
    | nil => exact fun start => ⟨Nat.le_refl _, List.forall_mem_nil _⟩
    | cons length rest ih =>
        intro start
        obtain ⟨reached, others⟩ := ih (max start length)
        exact ⟨Nat.le_trans (Nat.le_max_left _ _) reached,
          List.forall_mem_cons.mpr ⟨Nat.le_trans (Nat.le_max_right _ _) reached, others⟩⟩
  exact (below _ 0).2 _ (List.mem_map_of_mem isPiece)

theorem lined_literal (plain : ∀ c ∈ text, isPlain c = true ∨ c = '\n')
    (rows : longestRow '\'' text ≤ 2) : Lined multilineLiteral? '\'' 0 text text := by
  obtain ⟨first, others, pieces⟩ := Text.exists_cut_eq_cons (· != '\'') text
  have few : ∀ piece ∈ first :: others, piece.length ≤ 2 := fun piece isPiece =>
    Nat.le_trans (length_le_longestRow (pieces ▸ isPiece)) rows
  obtain ⟨fewFirst, fewOthers⟩ := List.forall_mem_cons.mp few
  exact lined_self plain pieces ((Nat.zero_add _).symm ▸ fewFirst) fewOthers

/-- The line feed behind the opening quotes is left out again. -/
theorem dropLineFeed_betweenTripled (severalLines : Bool)
    (first : severalLines = false → ∀ c ∈ (written ++ rest).head?, c ≠ '\n' ∧ c ≠ '\r') :
    dropLineFeed ((if severalLines then ['\n'] else []) ++ (written ++ rest)) = written ++ rest := by
  cases severalLines with
  | true => rfl
  | false =>
      rw [if_neg (by decide), List.nil_append]
      cases same : written ++ rest with
      | nil => rfl
      | cons c more =>
          rw [same] at first
          obtain ⟨notFeed, notReturn⟩ := first rfl c rfl
          rw [dropLineFeed, lineFeed?.eq_def]
          split
          · next same => exact absurd (List.cons.inj same).1 notFeed
          · next same => exact absurd (List.cons.inj same).1 notReturn
          · rfl

theorem Lined.length_le (lined : Lined read quote row text written) :
    text.length ≤ written.length := by
  induction lined with
  | nil => exact Nat.le_refl _
  | quote _ _ ih => exact Nat.succ_le_succ ih
  | other _ _ _ ih =>
      simp only [List.length_cons, List.length_append]
      omega

theorem Lined.quoted?_eq (lined : Lined read quote 0 text written) (reads : ReadsLines read quote)
    (ahead : NotNext (· == quote) rest)
    (first : '\n' ∉ text → ∀ c ∈ (written ++ (tripled quote ++ rest)).head?, c ≠ '\n' ∧ c ≠ '\r') :
    quoted? (betweenTripled quote text written ++ rest) = some (String.ofList text, rest) := by
  have opened : betweenTripled quote text written ++ rest = tripled quote ++
      ((if text.contains '\n' then ['\n'] else []) ++ (written ++ (tripled quote ++ rest))) := by
    simp [betweenTripled]
  have enough : text.length < ((if text.contains '\n' then ['\n'] else []) ++
      (written ++ (tripled quote ++ rest))).length + 4 := by
    have bound := lined.length_le
    simp only [List.length_append]
    omega
  have dropped := dropLineFeed_betweenTripled (text.contains '\n') fun oneLine =>
    first (by simpa using oneLine)
  rw [opened, reads.opens, dropped, lined.read_eq reads ahead enough]
  rfl

end

theorem ne_lineEnd_of_isPlain (plain : isPlain c = true) : c ≠ '\n' ∧ c ≠ '\r' :=
  ⟨ne_of_kind plain rfl, ne_of_kind plain rfl⟩

theorem quoted?_escapedLines (text : List Char) (ahead : NotNext isQuote rest) :
    quoted? (betweenTripled '"' text (escapedLines 0 text) ++ rest) =
      some (String.ofList text, rest) := by
  refine (lined_escapedLines 0 text).quoted?_eq readsLines_basic ?_ fun oneLine c first => ?_
  · intro c first
    exact (Bool.or_eq_false_iff.mp (ahead c first)).1
  · cases text with
    | nil =>
        cases first
        decide
    | cons d text =>
        rw [List.mem_cons, not_or] at oneLine
        rw [escapedLines, if_neg (by simpa using Ne.symm oneLine.1)] at first
        split at first
        · cases first
          decide
        · rw [List.append_assoc, List.head?_append_of_ne_nil _ (escapedChar_ne_nil d)] at first
          rcases escapedChar_cases d with ⟨escape, same, -⟩ | ⟨same, plain, -⟩
          · rw [same] at first
            cases first
            decide
          · rw [same] at first
            cases first
            exact ne_lineEnd_of_isPlain plain

theorem quoted?_literalLines (plain : ∀ c ∈ text, isPlain c = true ∨ c = '\n')
    (rows : longestRow '\'' text ≤ 2) (ahead : NotNext isQuote rest) :
    quoted? (betweenTripled '\'' text text ++ rest) = some (String.ofList text, rest) := by
  refine (lined_literal plain rows).quoted?_eq readsLines_literal ?_ fun oneLine c first => ?_
  · intro c first
    exact (Bool.or_eq_false_iff.mp (ahead c first)).2
  · cases text with
    | nil =>
        cases first
        decide
    | cons d text =>
        cases first
        rcases plain c (List.mem_cons_self ..) with plain | rfl
        · exact ne_lineEnd_of_isPlain plain
        · exact absurd (List.mem_cons_self ..) oneLine

/-- A text is read back from the form in which it is written. -/
theorem quoted?_stringText (text : List Char) (ahead : NotNext isQuote rest) :
    quoted? (stringText text ++ rest) = some (String.ofList text, rest) := by
  have plain (free : text.any needsEscape = false) : ∀ c ∈ text, isPlain c = true ∨ c = '\n' :=
    fun c member =>
      isPlain_or_of_not_needsEscape (Bool.eq_false_iff.mpr (List.any_eq_false.mp free c member))
  unfold stringText
  dsimp only
  split
  · exact quoted?_basicString text ahead
  · split
    · next isLiteral =>
        simp only [Bool.and_eq_true, Bool.not_eq_true', List.contains_eq_mem,
          decide_eq_false_iff_not] at isLiteral
        obtain ⟨⟨noQuote, oneLine⟩, free⟩ := isLiteral
        refine quoted?_literalString (List.all_eq_true.mpr fun c member => ?_) noQuote ahead
        refine (plain free c member).resolve_right ?_
        rintro rfl
        exact oneLine member
    · split
      · exact quoted?_escapedLines text ahead
      · split
        · next isLiteral =>
            simp only [Bool.and_eq_true, Bool.not_eq_true', decide_eq_true_eq] at isLiteral
            exact quoted?_literalLines (plain isLiteral.2) isLiteral.1 ahead
        · split
          · exact quoted?_escapedLines text ahead
          · exact quoted?_basicString text ahead

/-- Every form starts with a quote. -/
theorem exists_stringText (text : List Char) :
    ∃ quote more, stringText text = quote :: more ∧ isQuote quote = true := by
  unfold stringText
  dsimp only
  split
  · exact ⟨'"', _, rfl, rfl⟩
  · split
    · exact ⟨'\'', _, rfl, rfl⟩
    · split
      · exact ⟨'"', _, rfl, rfl⟩
      · split
        · exact ⟨'\'', _, rfl, rfl⟩
        · split <;> exact ⟨'"', _, rfl, rfl⟩

end OptionSchema.Toml
