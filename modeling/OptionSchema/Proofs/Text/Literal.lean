import Mathlib.Data.List.Basic
import OptionSchema.Text.Digit
import OptionSchema.Text.Quoted

/-!
# String literals

The literals of the language that generated code is written in. Between its double quotes a literal
has characters that stand for themselves and escapes, which start with a backslash: those of single
characters, `\x7f` with two digits for ASCII, `\u{200b}` with up to six digits for any character,
and a line end that is skipped with the blanks behind it. What is quoted is read as the text that
has been quoted (`readLiteral_quoted`).
-/

namespace OptionSchema.Text

inductive LiteralState where
  /-- Between characters of the text. -/
  | plain
  /-- Behind a backslash. -/
  | escape
  /-- Behind a line end that is skipped. -/
  | skip
  /-- Behind `\x`. -/
  | byte
  /-- Behind `\x` and a digit with the given value. -/
  | byteDigit (high : Nat)
  /-- Behind `\u`. -/
  | brace
  /-- Between the braces of `\u{}`, behind the given number of digits with the given value. -/
  | code (count value : Nat)

/-- What a reader does with a character: it is at the end, or it has read a part of the text and
goes on. -/
inductive LiteralStep where
  | close
  | read (text : List Char) (next : LiteralState)

def character? (code : Nat) : Option Char :=
  if valid : code.isValidChar then some (Char.ofNatAux code valid) else none

/-- What is done with a character outside of escapes. A carriage return cannot stand there. -/
def plainStep (c : Char) : Option LiteralStep :=
  if c = '"' then some .close
  else if c = '\\' then some (.read [] .escape)
  else if c = '\r' then none
  else some (.read [c] .plain)

def escapeStep (c : Char) : Option LiteralStep :=
  match c with
  | '0' => some (.read ['\x00'] .plain)
  | 't' => some (.read ['\t'] .plain)
  | 'r' => some (.read ['\r'] .plain)
  | 'n' => some (.read ['\n'] .plain)
  | '"' => some (.read ['"'] .plain)
  | '\'' => some (.read ['\''] .plain)
  | '\\' => some (.read ['\\'] .plain)
  | '\n' => some (.read [] .skip)
  | 'x' => some (.read [] .byte)
  | 'u' => some (.read [] .brace)
  | _ => none

/-- What is done with a character between the braces of an escape. Underscores may stand behind
digits. -/
def codeStep (count value : Nat) (c : Char) : Option LiteralStep :=
  if isHexDigit c then
    if count < 6 then some (.read [] (.code (count + 1) (value * 16 + digitValue c))) else none
  else if count = 0 then none
  else if c = '_' then some (.read [] (.code count value))
  else if c = '}' then (character? value).map fun c => .read [c] .plain
  else none

def LiteralState.step : LiteralState → Char → Option LiteralStep
  | .plain, c => plainStep c
  | .escape, c => escapeStep c
  | .skip, c =>
      if c = ' ' ∨ c = '\t' ∨ c = '\n' ∨ c = '\r' then some (.read [] .skip) else plainStep c
  | .byte, c => if isOctalDigit c then some (.read [] (.byteDigit (digitValue c))) else none
  | .byteDigit high, c =>
      if isHexDigit c then
        (character? (high * 16 + digitValue c)).map fun c => .read [c] .plain
      else none
  | .brace, c => if c = '{' then some (.read [] (.code 0 0)) else none
  | .code count value, c => codeStep count value c

/-- Reads a literal up to its closing quote: the text that it stands for, and what is behind it. -/
def readLiteralFrom : LiteralState → List Char → Option (List Char × List Char)
  | _, [] => none
  | state, c :: rest =>
      match state.step c with
      | none => none
      | some .close => some ([], rest)
      | some (.read text next) =>
          (readLiteralFrom next rest).map fun (more, behind) => (text ++ more, behind)

def readLiteral : List Char → Option (List Char × List Char)
  | '"' :: rest => readLiteralFrom .plain rest
  | _ => none

variable {state next : LiteralState} {c : Char} {text rest : List Char}

theorem readLiteralFrom_cons (step : state.step c = some (.read text next)) :
    readLiteralFrom state (c :: rest) =
      (readLiteralFrom next rest).map fun (more, behind) => (text ++ more, behind) := by
  rw [readLiteralFrom, step]

/-- A step that reads nothing of the text. -/
theorem readLiteralFrom_cons_silent (step : state.step c = some (.read [] next)) :
    readLiteralFrom state (c :: rest) = readLiteralFrom next rest := by
  rw [readLiteralFrom_cons step]
  simp

/-- A step that reads one character of the text. -/
theorem readLiteralFrom_cons_one {read : Char} (step : state.step c = some (.read [read] next)) :
    readLiteralFrom state (c :: rest) =
      (readLiteralFrom next rest).map fun (more, behind) => (read :: more, behind) :=
  readLiteralFrom_cons step

/-! ## Digits -/

theorem isHexDigit_digitChar : ∀ digit < 16, isHexDigit digit.digitChar = true := by
  decide

theorem digitValue_digitChar : ∀ digit < 16, digitValue digit.digitChar = digit := by
  decide

/-- Reading the digits of a number, as long as there is room for them. -/
theorem readLiteralFrom_hexadecimal (n : Nat) (room : (hexadecimal n).length ≤ 6) :
    readLiteralFrom (.code 0 0) (hexadecimal n ++ rest) =
      readLiteralFrom (.code (hexadecimal n).length n) rest := by
  induction n using Nat.strongRecOn generalizing rest with
  | ind n ih =>
      have last (count value digit : Nat) (small : digit < 16) (few : count < 6) :
          readLiteralFrom (.code count value) (digit.digitChar :: rest) =
            readLiteralFrom (.code (count + 1) (value * 16 + digit)) rest := by
        refine readLiteralFrom_cons_silent ?_
        rw [LiteralState.step, codeStep, if_pos (isHexDigit_digitChar digit small), if_pos few,
          digitValue_digitChar digit small]
      unfold hexadecimal at ih room ⊢
      by_cases small : n < 16
      · rw [Nat.toDigits_of_lt_base small]
        simpa using last 0 0 n small (by decide)
      · rw [Nat.toDigits_of_base_le (by decide) (by omega)] at room ⊢
        rw [List.length_append, List.length_singleton] at room ⊢
        rw [List.append_assoc, ih (n / 16) (by omega) (by omega), List.singleton_append,
          last _ _ _ (Nat.mod_lt n (by decide)) (by omega), Nat.div_add_mod' n 16]

theorem character?_toNat (c : Char) : character? c.toNat = some c := by
  have valid : c.toNat.isValidChar := c.valid
  have same : Char.ofNatAux c.toNat valid = Char.ofNat c.toNat := by
    rw [Char.ofNat, dif_pos valid]
  rw [character?, dif_pos valid, same, Char.ofNat_toNat]

/-! ## Quoted texts -/

/-- The escape of a code point stands for the character. -/
theorem readLiteralFrom_code (c : Char) :
    readLiteralFrom .plain ('\\' :: 'u' :: '{' :: (hexadecimal c.toNat ++ '}' :: rest)) =
      (readLiteralFrom .plain rest).map fun (more, behind) => (c :: more, behind) := by
  have few : (hexadecimal c.toNat).length ≤ 6 := by
    rw [hexadecimal, Nat.length_toDigits_le_iff (by decide) (by decide)]
    rcases c.valid with low | ⟨-, high⟩
    · exact Nat.lt_trans low (by decide)
    · exact Nat.lt_trans high (by decide)
  have some' : (hexadecimal c.toNat).length ≠ 0 := Nat.ne_of_gt Nat.length_toDigits_pos
  rw [readLiteralFrom_cons_silent rfl, readLiteralFrom_cons_silent rfl,
    readLiteralFrom_cons_silent rfl, readLiteralFrom_hexadecimal _ few]
  refine readLiteralFrom_cons_one ?_
  rw [LiteralState.step, codeStep, if_neg (by decide), if_neg some', if_neg (by decide),
    if_pos rfl, character?_toNat]
  rfl

/-- What stands for a character in a quoted text is read as that character. -/
theorem readLiteralFrom_quotedChar (c : Char) :
    readLiteralFrom .plain (quotedChar c ++ rest) =
      (readLiteralFrom .plain rest).map fun (more, behind) => (c :: more, behind) := by
  have short (letter : Char) (step : LiteralState.escape.step letter = some (.read [c] .plain)) :
      readLiteralFrom .plain ('\\' :: letter :: rest) =
        (readLiteralFrom .plain rest).map fun (more, behind) => (c :: more, behind) := by
    rw [readLiteralFrom_cons_silent rfl]
    exact readLiteralFrom_cons_one step
  unfold quotedChar
  split
  · exact short '0' rfl
  · exact short 't' rfl
  · exact short 'r' rfl
  · exact short 'n' rfl
  · exact short '"' rfl
  · exact short '\\' rfl
  · next _ _ notReturn _ notQuote notBackslash =>
      split
      · refine readLiteralFrom_cons_one ?_
        rw [LiteralState.step, plainStep, if_neg notQuote, if_neg notBackslash, if_neg notReturn]
      · rw [List.append_assoc]
        exact readLiteralFrom_code c

/-- A quoted text is read as the text. -/
theorem readLiteral_quoted (text rest : List Char) :
    readLiteral (quoted text ++ rest) = some (text, rest) := by
  have body :
      readLiteralFrom .plain (text.flatMap quotedChar ++ '"' :: rest) = some (text, rest) := by
    induction text with
    | nil => rfl
    | cons c text ih =>
        rw [List.flatMap_cons, List.append_assoc, readLiteralFrom_quotedChar, ih]
        rfl
  simpa [quoted, readLiteral] using body

/-! ## Literals in lines -/

/-- The text of the literal between two parts of a line, if nothing else stands in the line. -/
def literalBetween? (front back line : String) : Option String := do
  let rest ← front.toList.isPrefixOf? line.toList
  let (text, rest) ← readLiteral rest
  if rest = back.toList then some (String.ofList text) else none

theorem literalBetween?_quotedText (front back text : String) :
    literalBetween? front back (front ++ quotedText text ++ back) = some text := by
  have start : front.toList.isPrefixOf? (front.toList ++ (quoted text.toList ++ back.toList)) =
      some (quoted text.toList ++ back.toList) := by
    simp
  simp only [literalBetween?, String.toList_append, quotedText, String.toList_ofList,
    List.append_assoc, start, readLiteral_quoted, String.ofList_toList, if_true,
    Option.bind_eq_bind, Option.bind_some]

theorem isPrefix_of_literalBetween? {front back line text : String}
    (found : literalBetween? front back line = some text) : front.toList <+: line.toList := by
  obtain ⟨rest, start, -⟩ := Option.bind_eq_some_iff.mp found
  exact ⟨rest, List.isPrefixOf?_eq_some_iff_append_eq.mp start⟩

theorem quotedText_injective : Function.Injective quotedText := by
  intro first second same
  have read := literalBetween?_quotedText "" "" first
  rw [same, literalBetween?_quotedText] at read
  exact (Option.some.inj read).symm

/-! ## Quoted texts on one line -/

theorem forall_mem_hexadecimal (n : Nat) : ∀ c ∈ hexadecimal n, isHexDigit c = true := by
  induction n using Nat.strongRecOn with
  | ind n ih =>
      unfold hexadecimal at ih ⊢
      by_cases small : n < 16
      · rw [Nat.toDigits_of_lt_base small, List.forall_mem_singleton]
        exact isHexDigit_digitChar n small
      · rw [Nat.toDigits_of_base_le (by decide) (by omega), List.forall_mem_append,
          List.forall_mem_singleton]
        exact ⟨ih (n / 16) (by omega), isHexDigit_digitChar _ (Nat.mod_lt n (by decide))⟩

theorem lineFeed_not_mem_quotedChar (c : Char) : '\n' ∉ quotedChar c := by
  have digits : '\n' ∉ hexadecimal c.toNat := fun member =>
    absurd (forall_mem_hexadecimal _ _ member) (by decide)
  rw [quotedChar.eq_def]
  split
  · decide
  · decide
  · decide
  · decide
  · decide
  · decide
  · next apart _ _ =>
      split
      · exact fun member => apart (List.mem_singleton.mp member).symm
      · rw [List.mem_append, List.mem_append, not_or, not_or]
        exact ⟨⟨by decide, digits⟩, by decide⟩

/-- Line feeds are escaped. -/
theorem lineFeed_not_mem_quotedText (text : String) : '\n' ∉ (quotedText text).toList := by
  have body : '\n' ∉ text.toList.flatMap quotedChar := by
    rw [List.mem_flatMap]
    rintro ⟨c, -, member⟩
    exact lineFeed_not_mem_quotedChar c member
  rw [quotedText, String.toList_ofList, quoted, List.cons_append, List.mem_cons, List.mem_append,
    not_or, not_or]
  exact ⟨by decide, body, by decide⟩

end OptionSchema.Text
