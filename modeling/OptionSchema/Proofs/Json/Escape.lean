import OptionSchema.Json.ReadError

/-!
# Writing and reading the bodies of strings

What is written for a text is the body of a string, and reading it gives the text back.
-/

namespace OptionSchema.Json

/-- A character other than the backslash stands for itself. -/
theorem unescape_cons {c : Char} (plain : c ≠ '\\') (rest : List Char) :
    unescape (c :: rest) = (unescape rest).map (c :: ·) := by
  rw [unescape.eq_def]
  split <;> simp_all

/-- An escape of two characters stands for one, unless it starts one of six. -/
theorem unescape_short {c : Char} (short : c ≠ 'u') (rest : List Char) :
    unescape ('\\' :: c :: rest) = (unescape rest).map (shortEscape c :: ·) := by
  rw [unescape.eq_def]
  split
  · next same => cases same
  · next same => exact absurd (List.cons.inj (List.cons.inj same).2).1 short
  · next same =>
      cases same
      rfl
  · next notEscape same =>
      cases same
      exact absurd rfl (notEscape _ _ rfl)

/-- The escape of a control character denotes its code. -/
theorem codeUnit_control :
    ∀ n < 0x20, codeUnit '0' '0' (hexDigit (n / 16)) (hexDigit (n % 16)) = n := by
  decide

structure IsPlainHexDigit (c : Char) : Prop where
  hexDigit : Text.isHexDigit c = true
  notQuote : c ≠ '"'
  notBackslash : c ≠ '\\'
  printed : 0x20 ≤ c.toNat

theorem isPlainHexDigit_hexDigit {n : Nat} (small : n < 16) : IsPlainHexDigit (hexDigit n) := by
  have checked : ∀ n < 16, Text.isHexDigit (hexDigit n) = true ∧ hexDigit n ≠ '"' ∧
      hexDigit n ≠ '\\' ∧ 0x20 ≤ (hexDigit n).toNat := by
    decide
  obtain ⟨isDigit, notQuote, notBackslash, printed⟩ := checked n small
  exact ⟨isDigit, notQuote, notBackslash, printed⟩

theorem unescape_control {c : Char} (control : c.toNat < 0x20) (rest : List Char) :
    unescape
        ('\\' :: 'u' :: '0' :: '0' :: hexDigit (c.toNat / 16) :: hexDigit (c.toNat % 16) :: rest) =
      (unescape rest).map (c :: ·) := by
  have noTrailing : isTrailingSurrogate c.toNat = false := by
    simp only [isTrailingSurrogate, Bool.and_eq_false_iff, decide_eq_false_iff_not]
    omega
  have noLeading : isLeadingSurrogate c.toNat = false := by
    simp only [isLeadingSurrogate, Bool.and_eq_false_iff, decide_eq_false_iff_not]
    omega
  rw [unescape.eq_def]
  simp only [codeUnit_control c.toNat control, noTrailing, noLeading, Bool.false_eq_true, if_false,
    Char.ofNat_toNat]

/-- What is written for one character is read as that character. -/
theorem unescape_escapedChar (c : Char) (rest : List Char) :
    unescape (escapedChar c ++ rest) = (unescape rest).map (c :: ·) := by
  unfold escapedChar
  split
  all_goals try exact unescape_short (by decide) rest
  next notQuote notBackslash _ _ _ _ _ =>
    split
    · next control => exact unescape_control control rest
    · exact unescape_cons notBackslash rest

/-- Reading what is written for a text gives the text. -/
theorem unescape_escape (text : List Char) : unescape (escape text) = .ok text := by
  induction text with
  | nil => rfl
  | cons c text ih =>
      rw [escape, List.flatMap_cons, unescape_escapedChar]
      change (unescape (escape text)).map (c :: ·) = .ok (c :: text)
      rw [ih]
      rfl

@[simp] theorem readString_escape (text : String) : readString (escape text.toList) = .ok text := by
  rw [readString, unescape_escape]
  simp

theorem isStringBody_cons {c : Char} (notQuote : c ≠ '"') (notBackslash : c ≠ '\\')
    (rest : List Char) :
    isStringBody (c :: rest) = (decide (0x20 ≤ c.toNat) && isStringBody rest) := by
  rw [isStringBody.eq_def]
  split
  · next same => cases same
  · next same => exact absurd (List.cons.inj same).1 notQuote
  · next same => exact absurd (List.cons.inj same).1 notBackslash
  · next same => exact absurd (List.cons.inj same).1 notBackslash
  · next same =>
      cases same
      rw [bne_iff_ne.mpr notBackslash, Bool.true_and]

theorem isStringBody_short {c : Char} (short : isShortEscape c) (rest : List Char) :
    isStringBody ('\\' :: c :: rest) = isStringBody rest := by
  have notUnit : c ≠ 'u' := by
    rintro rfl
    exact absurd short (by decide)
  rw [isStringBody.eq_def]
  split
  · next same => cases same
  · next same => exact absurd (List.cons.inj same).1 (by decide)
  · next same => exact absurd (List.cons.inj (List.cons.inj same).2).1 notUnit
  · next same =>
      cases same
      rw [short, Bool.true_and]
  · next notEscape same =>
      cases same
      exact absurd rfl (notEscape _ _ rfl)

theorem isStringBody_hexDigit {c : Char} (plain : IsPlainHexDigit c) (rest : List Char) :
    isStringBody (c :: rest) = isStringBody rest := by
  rw [isStringBody_cons plain.notQuote plain.notBackslash]
  simp only [plain.printed, decide_true, Bool.true_and]

theorem isStringBody_unit {a b c d : Char} (plainA : IsPlainHexDigit a) (plainB : IsPlainHexDigit b)
    (plainC : IsPlainHexDigit c) (plainD : IsPlainHexDigit d) (rest : List Char) :
    isStringBody ('\\' :: 'u' :: a :: b :: c :: d :: rest) = isStringBody rest := by
  change (startsWithFourHexDigits (a :: b :: c :: d :: rest) && isStringBody (a :: b :: c :: d :: rest)) = _
  rw [isStringBody_hexDigit plainA, isStringBody_hexDigit plainB,
    isStringBody_hexDigit plainC, isStringBody_hexDigit plainD]
  simp only [startsWithFourHexDigits, plainA.hexDigit, plainB.hexDigit, plainC.hexDigit,
    plainD.hexDigit, Bool.and_true, Bool.true_and]

theorem isStringBody_escapedChar (c : Char) (rest : List Char) :
    isStringBody (escapedChar c ++ rest) = isStringBody rest := by
  unfold escapedChar
  split
  all_goals try exact isStringBody_short (by decide) rest
  next notQuote notBackslash _ _ _ _ _ =>
    split
    · next control =>
        have zero : IsPlainHexDigit '0' := isPlainHexDigit_hexDigit (n := 0) (by decide)
        exact isStringBody_unit zero zero (isPlainHexDigit_hexDigit (by omega))
          (isPlainHexDigit_hexDigit (by omega)) rest
    · next printed =>
        rw [List.cons_append, List.nil_append, isStringBody_cons notQuote notBackslash]
        simp only [Nat.not_lt.mp printed, decide_true, Bool.true_and]

/-- What is written for a text can stand between quotes. -/
theorem isStringBody_escape (text : List Char) : isStringBody (escape text) = true := by
  induction text with
  | nil => rfl
  | cons c text ih =>
      rw [escape, List.flatMap_cons, isStringBody_escapedChar]
      exact ih

end OptionSchema.Json
