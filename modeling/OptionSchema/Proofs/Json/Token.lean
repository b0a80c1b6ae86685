import Mathlib.Data.List.TakeDrop
import Mathlib.Data.List.TakeWhile
import OptionSchema.Json.Scan
import OptionSchema.Proofs.Json.Escape
import OptionSchema.Proofs.Json.Numeral
import OptionSchema.Proofs.Outcome

/-!
# Scanning blanks, letters, strings and numerals

For each kind of token there are two statements. What a scan finds is of the grammar and stands at
the start of the text; and what is of the grammar is found, if what follows does not continue it.
-/

namespace OptionSchema.Json

variable {text rest : List Char}

def NotNext (p : Char → Bool) (rest : List Char) : Prop :=
  ∀ c ∈ rest.head?, p c = false

@[simp] theorem notNext_nil (p : Char → Bool) : NotNext p [] := by
  simp [NotNext]

@[simp] theorem notNext_cons (p : Char → Bool) (c : Char) (rest : List Char) :
    NotNext p (c :: rest) ↔ p c = false := by
  simp [NotNext]

/-! ## Runs of characters -/

theorem span_run {p : Char → Bool} {run : List Char} (all : run.all p) (stop : NotNext p rest) :
    (run ++ rest).span p = (run, rest) := by
  have stopped : rest.takeWhile p = [] ∧ rest.dropWhile p = rest := by
    cases rest with
    | nil => exact ⟨rfl, rfl⟩
    | cons c rest =>
        rw [notNext_cons] at stop
        simp [stop]
  have holds := List.all_eq_true.mp all
  rw [List.span_eq_takeWhile_dropWhile, List.takeWhile_append_of_pos holds,
    List.dropWhile_append_of_pos holds, stopped.1, stopped.2, List.append_nil]

theorem dropWhile_run {p : Char → Bool} {run : List Char} (all : run.all p)
    (stop : NotNext p rest) : (run ++ rest).dropWhile p = rest := by
  have spanned := span_run all stop
  rw [List.span_eq_takeWhile_dropWhile] at spanned
  exact (Prod.mk.inj spanned).2

/-- A span cuts a text where a run of characters ends. -/
theorem exists_span (p : Char → Bool) (text : List Char) :
    ∃ run rest, text = run ++ rest ∧ text.span p = (run, rest) ∧ run.all p = true :=
  ⟨text.takeWhile p, text.dropWhile p, List.takeWhile_append_dropWhile.symm,
    List.span_eq_takeWhile_dropWhile p text, List.all_takeWhile⟩

/-! ## Letters -/

theorem scanLetters_sound {tree found : Tree} {letters : List Char}
    (scanned : scanLetters tree letters text = .ok (found, rest)) :
    found = tree ∧ text = letters ++ rest := by
  induction letters generalizing text with
  | nil =>
      cases scanned
      exact ⟨rfl, rfl⟩
  | cons letter letters ih =>
      cases text with
      | nil => cases scanned
      | cons c text =>
          rw [scanLetters] at scanned
          split at scanned
          · next same =>
              obtain ⟨isTree, after⟩ := ih scanned
              exact ⟨isTree, by rw [same, after]; rfl⟩
          · cases scanned

theorem scanLetters_text (tree : Tree) (letters rest : List Char) :
    scanLetters tree letters (letters ++ rest) = .ok (tree, rest) := by
  induction letters with
  | nil => rfl
  | cons letter letters ih =>
      rw [List.cons_append, scanLetters, if_pos rfl]
      exact ih

/-! ## Strings -/

theorem startsWithFourHexDigits_append {body : List Char} (start : startsWithFourHexDigits body)
    (rest : List Char) : startsWithFourHexDigits (body ++ rest) = true := by
  match body, start with
  | _ :: _ :: _ :: _ :: _, start => exact start

/-- Four digits before a quote are digits of the body. -/
theorem startsWithFourHexDigits_of_append {body : List Char}
    (start : startsWithFourHexDigits (body ++ '"' :: rest)) :
    startsWithFourHexDigits body = true := by
  have quote : Text.isHexDigit '"' = false := by decide
  rcases body with _ | ⟨a, _ | ⟨b, _ | ⟨c, _ | ⟨d, body⟩⟩⟩⟩
  · rcases rest with _ | ⟨e, _ | ⟨f, _ | ⟨g, rest⟩⟩⟩ <;>
      simp [startsWithFourHexDigits, quote] at start
  · rcases rest with _ | ⟨e, _ | ⟨f, rest⟩⟩ <;> simp [startsWithFourHexDigits, quote] at start
  · rcases rest with _ | ⟨e, rest⟩ <;> simp [startsWithFourHexDigits, quote] at start
  · simp [startsWithFourHexDigits, quote] at start
  · exact start

/-- A scan that goes on after some characters and puts them in front of what it finds. -/
theorem map_eq_ok_scanned {α β : Type} {f : α → β} {scanned : Except ScanError (Scanned α)}
    {result : Scanned β} (mapped : (scanned.map fun (found, rest) => (f found, rest)) = .ok result) :
    ∃ found, scanned = .ok (found, result.2) ∧ result.1 = f found := by
  obtain ⟨⟨found, rest⟩, inner, same⟩ := Outcome.map_eq_ok.mp mapped
  rw [← same]
  exact ⟨found, inner, rfl⟩

theorem scanStringBody_sound {body : List Char}
    (scanned : scanStringBody text = .ok (body, rest)) :
    text = body ++ '"' :: rest ∧ isStringBody body = true := by
  fun_induction scanStringBody text generalizing body with
  | case1 | case3 | case5 | case6 | case8 | case9 => cases scanned
  | case2 =>
      cases scanned
      exact ⟨rfl, rfl⟩
  | case4 text digits ih =>
      obtain ⟨inner, scanned, rfl⟩ :=
        map_eq_ok_scanned (f := fun body => '\\' :: 'u' :: body) scanned
      obtain ⟨rfl, wellFormed⟩ := ih scanned
      refine ⟨rfl, ?_⟩
      change (startsWithFourHexDigits inner && isStringBody inner) = true
      rw [startsWithFourHexDigits_of_append digits, wellFormed]
      rfl
  | case7 c text _ short ih =>
      obtain ⟨inner, scanned, rfl⟩ := map_eq_ok_scanned (f := fun body => '\\' :: c :: body) scanned
      obtain ⟨rfl, wellFormed⟩ := ih scanned
      exact ⟨rfl, (isStringBody_short short inner).trans wellFormed⟩
  | case10 c text notQuote notAlone _ notEscape printed ih =>
      obtain ⟨inner, scanned, rfl⟩ := map_eq_ok_scanned (f := (c :: ·)) scanned
      obtain ⟨rfl, wellFormed⟩ := ih scanned
      have notBackslash : c ≠ '\\' := by
        intro backslash
        cases inner with
        | nil => exact notEscape _ _ backslash rfl
        | cons d inner => exact notEscape _ _ backslash rfl
      refine ⟨rfl, ?_⟩
      rw [isStringBody_cons notQuote notBackslash, wellFormed]
      simp only [Nat.not_lt.mp printed, decide_true, Bool.true_and]

theorem scanStringBody_unit (digits : startsWithFourHexDigits text) :
    scanStringBody ('\\' :: 'u' :: text) =
      (scanStringBody text).map fun (body, rest) => ('\\' :: 'u' :: body, rest) := by
  rw [scanStringBody.eq_def]
  exact if_pos digits

theorem scanStringBody_short {c : Char} (short : isShortEscape c) (notUnit : c ≠ 'u')
    (text : List Char) :
    scanStringBody ('\\' :: c :: text) =
      (scanStringBody text).map fun (body, rest) => ('\\' :: c :: body, rest) := by
  rw [scanStringBody.eq_def]
  split
  · next same => cases same
  · next same => exact absurd (List.cons.inj same).1 (by decide)
  · next same => cases same
  · next same => exact absurd (List.cons.inj (List.cons.inj same).2).1 notUnit
  · next same =>
      cases same
      exact if_pos short
  · next notEscape same =>
      cases same
      exact absurd rfl (notEscape _ _ rfl)

theorem scanStringBody_cons {c : Char} (notQuote : c ≠ '"') (notBackslash : c ≠ '\\')
    (printed : 0x20 ≤ c.toNat) (text : List Char) :
    scanStringBody (c :: text) =
      (scanStringBody text).map fun (body, rest) => (c :: body, rest) := by
  rw [scanStringBody.eq_def]
  split
  · next same => cases same
  · next same => exact absurd (List.cons.inj same).1 notQuote
  · next same => exact absurd (List.cons.inj same).1 notBackslash
  · next same => exact absurd (List.cons.inj same).1 notBackslash
  · next same => exact absurd (List.cons.inj same).1 notBackslash
  · next same =>
      cases same
      exact if_neg (Nat.not_lt.mpr printed)

theorem scanStringBody_text {body : List Char} (wellFormed : isStringBody body) (rest : List Char) :
    scanStringBody (body ++ '"' :: rest) = .ok (body, rest) := by
  fun_induction isStringBody body with
  | case1 => rfl
  | case2 => cases wellFormed
  | case3 body ih =>
      rw [Bool.and_eq_true] at wellFormed
      rw [List.cons_append, List.cons_append,
        scanStringBody_unit (startsWithFourHexDigits_append wellFormed.1 _), ih wellFormed.2]
      rfl
  | case4 c body notUnit ih =>
      rw [Bool.and_eq_true] at wellFormed
      rw [List.cons_append, List.cons_append, scanStringBody_short wellFormed.1 notUnit,
        ih wellFormed.2]
      rfl
  | case5 c body notQuote _ _ ih =>
      simp only [Bool.and_eq_true, bne_iff_ne, decide_eq_true_eq] at wellFormed
      obtain ⟨⟨notBackslash, printed⟩, wellFormed⟩ := wellFormed
      rw [List.cons_append, scanStringBody_cons notQuote notBackslash printed, ih wellFormed]
      rfl

/-! ## Numerals -/

def fractionText (fraction : List Char) : List Char :=
  if fraction.isEmpty then [] else '.' :: fraction

def exponentText (exponent : Option Exponent) : List Char :=
  (exponent.map Exponent.text).getD []

def continuesNumeral (c : Char) : Bool :=
  c.isDigit || c == '.' || c == 'e' || c == 'E'

theorem NotNext.mono {p q : Char → Bool} (stop : NotNext p rest)
    (weaker : ∀ c, q c = true → p c = true) : NotNext q rest := by
  intro c first
  have stopped := stop c first
  cases continued : q c with
  | false => rfl
  | true => exact absurd (weaker c continued) (by simp [stopped])

theorem scanWhole_sound {whole : List Char} (scanned : scanWhole text = .ok (whole, rest)) :
    text = whole ++ rest ∧ isWhole whole = true := by
  unfold scanWhole at scanned
  split at scanned
  · split at scanned
    · cases scanned
    · cases scanned
      exact ⟨rfl, rfl⟩
  · next c text notZero =>
      split at scanned
      · next digit =>
          obtain ⟨digits, behind, rfl, spanned, decimal⟩ := exists_span Char.isDigit text
          rw [spanned] at scanned
          cases scanned
          refine ⟨rfl, ?_⟩
          by_cases zero : c = '0'
          · cases digits with
            | nil =>
                rw [zero]
                rfl
            | cons d digits => exact absurd rfl (notZero d (digits ++ rest) zero)
          · exact isWhole_of_head?_ne (by simp) (by simp [digit, decimal]) (by simpa using zero)
      · cases scanned
  · cases scanned

theorem scanWhole_text {whole : List Char} (wellFormed : isWhole whole)
    (stop : NotNext Char.isDigit rest) : scanWhole (whole ++ rest) = .ok (whole, rest) := by
  rcases isWhole_iff.mp wellFormed with rfl | ⟨some', decimal, noZero⟩
  · cases rest with
    | nil => rfl
    | cons c rest =>
        rw [notNext_cons] at stop
        simp [scanWhole, stop]
  · cases whole with
    | nil => exact absurd rfl some'
    | cons c whole =>
        rw [List.all_cons, Bool.and_eq_true] at decimal
        rw [List.cons_append, scanWhole, if_pos decimal.1, span_run decimal.2 stop]
        exact fun _ _ zero => absurd (by rw [zero]; rfl) noZero

theorem scanFraction_sound {fraction : List Char}
    (scanned : scanFraction text = .ok (fraction, rest)) :
    text = fractionText fraction ++ rest ∧ fraction.all Char.isDigit = true := by
  unfold scanFraction at scanned
  split at scanned
  · next text =>
      obtain ⟨digits, behind, rfl, spanned, decimal⟩ := exists_span Char.isDigit text
      rw [spanned] at scanned
      dsimp only at scanned
      split at scanned
      · cases scanned
      · next some' =>
          cases scanned
          exact ⟨by rw [fractionText, if_neg some']; rfl, decimal⟩
  · cases scanned
    exact ⟨rfl, rfl⟩

theorem scanFraction_text {fraction : List Char} (decimal : fraction.all Char.isDigit)
    (stop : NotNext (fun c => c.isDigit || c == '.') rest) :
    scanFraction (fractionText fraction ++ rest) = .ok (fraction, rest) := by
  unfold fractionText
  split
  · next none =>
      rw [List.isEmpty_iff.mp none, List.nil_append, scanFraction]
      rintro rest' rfl
      simp at stop
  · next some' =>
      rw [List.cons_append, scanFraction, span_run decimal (stop.mono fun c digit => by simp [digit])]
      exact if_neg some'

theorem scanExponentDigits_sound {mark : Char} {sign : Option Char} {exponent : Exponent}
    (scanned : scanExponentDigits mark sign text = .ok (exponent, rest)) :
    mark :: sign.toList ++ text = exponent.text ++ rest ∧ exponent.mark = mark ∧
      exponent.sign = sign ∧ exponent.digits ≠ [] ∧ exponent.digits.all Char.isDigit = true := by
  unfold scanExponentDigits at scanned
  obtain ⟨digits, behind, rfl, spanned, decimal⟩ := exists_span Char.isDigit text
  rw [spanned] at scanned
  dsimp only at scanned
  split at scanned
  · cases scanned
  · next some' =>
      cases scanned
      exact ⟨by simp [Exponent.text], rfl, rfl, fun none => some' (List.isEmpty_iff.mpr none),
        decimal⟩

theorem scanExponentDigits_wellFormed {mark : Char} {sign : Option Char} {exponent : Exponent}
    (isMark : (mark == 'e' || mark == 'E') = true)
    (isSign : sign.all (fun c => c == '+' || c == '-') = true)
    (scanned : scanExponentDigits mark sign text = .ok (exponent, rest)) :
    mark :: sign.toList ++ text = exponent.text ++ rest ∧ exponent.wellFormed = true := by
  obtain ⟨parts, sameMark, sameSign, some', decimal⟩ := scanExponentDigits_sound scanned
  refine ⟨parts, ?_⟩
  simp only [Exponent.wellFormed, sameMark, sameSign, isMark, isSign, decimal, Bool.true_and,
    Bool.and_true, Bool.not_eq_true', List.isEmpty_eq_false_iff]
  exact some'

theorem scanExponent_sound {exponent : Option Exponent}
    (scanned : scanExponent text = .ok (exponent, rest)) :
    text = exponentText exponent ++ rest ∧ exponent.all Exponent.wellFormed = true := by
  unfold scanExponent at scanned
  split at scanned
  · next mark text =>
      split at scanned
      · next isMark =>
          obtain ⟨found, scanned, rfl⟩ := map_eq_ok_scanned (f := some) scanned
          split at scanned
          · exact scanExponentDigits_wellFormed isMark rfl scanned
          · exact scanExponentDigits_wellFormed isMark rfl scanned
          · exact scanExponentDigits_wellFormed isMark rfl scanned
      · cases scanned
        exact ⟨rfl, rfl⟩
  · cases scanned
    exact ⟨rfl, rfl⟩

theorem scanExponentDigits_text (mark : Char) (sign : Option Char) {digits : List Char}
    (some' : digits.isEmpty = false) (decimal : digits.all Char.isDigit)
    (stop : NotNext Char.isDigit rest) :
    scanExponentDigits mark sign (digits ++ rest) = .ok (⟨mark, sign, digits⟩, rest) := by
  unfold scanExponentDigits
  rw [span_run decimal stop]
  simp only [some', Bool.false_eq_true, if_false]

theorem scanExponent_text {exponent : Option Exponent} (wellFormed : exponent.all Exponent.wellFormed)
    (stop : NotNext continuesNumeral rest) :
    scanExponent (exponentText exponent ++ rest) = .ok (exponent, rest) := by
  have noDigit : NotNext Char.isDigit rest :=
    stop.mono fun c digit => by simp [continuesNumeral, digit]
  cases exponent with
  | none =>
      cases rest with
      | nil => rfl
      | cons c rest =>
          rw [notNext_cons] at stop
          simp only [continuesNumeral, Bool.or_eq_false_iff] at stop
          simp [exponentText, scanExponent, stop]
  | some exponent =>
      obtain ⟨mark, sign, digits⟩ := exponent
      simp only [Option.all_some, Exponent.wellFormed, Bool.and_eq_true, Bool.not_eq_true'] at wellFormed
      obtain ⟨⟨⟨isMark, isSign⟩, some'⟩, decimal⟩ := wellFormed
      cases sign with
      | some c =>
          simp only [Option.all_some, Bool.or_eq_true, beq_iff_eq] at isSign
          rcases isSign with rfl | rfl
          · change scanExponent (mark :: '+' :: (digits ++ rest)) = _
            rw [scanExponent, if_pos isMark, scanExponentDigits_text mark _ some' decimal noDigit]
            rfl
          · change scanExponent (mark :: '-' :: (digits ++ rest)) = _
            rw [scanExponent, if_pos isMark, scanExponentDigits_text mark _ some' decimal noDigit]
            rfl
      | none =>
          have noSign : ∀ c, c.isDigit = false → ∀ after, digits ++ rest ≠ c :: after := by
            intro c notDigit after same
            cases digits with
            | nil => cases some'
            | cons d digits =>
                rw [(List.cons.inj same).1, List.all_cons, notDigit] at decimal
                cases decimal
          change scanExponent (mark :: (digits ++ rest)) = _
          rw [scanExponent, if_pos isMark, scanExponentDigits_text mark _ some' decimal noDigit]
          · rfl
          · exact noSign '+' (by decide)
          · exact noSign '-' (by decide)

def Numeral.magnitudeText (numeral : Numeral) : List Char :=
  numeral.whole ++ (fractionText numeral.fraction ++ exponentText numeral.exponent)

theorem Numeral.text_eq (numeral : Numeral) :
    numeral.text = (if numeral.negative then ['-'] else []) ++ numeral.magnitudeText := by
  simp [Numeral.text, Numeral.magnitudeText, fractionText, exponentText]

theorem scanNumeral_sound {negative : Bool} {numeral : Numeral}
    (scanned : scanNumeral negative text = .ok (numeral, rest)) :
    text = numeral.magnitudeText ++ rest ∧ numeral.negative = negative ∧
      numeral.wellFormed = true := by
  simp only [scanNumeral, Outcome.bind_eq_ok, Outcome.pure_eq_ok] at scanned
  obtain ⟨⟨whole, afterWhole⟩, scannedWhole, ⟨fraction, afterFraction⟩, scannedFraction,
    ⟨exponent, afterExponent⟩, scannedExponent, same⟩ := scanned
  cases same
  obtain ⟨rfl, isWhole⟩ := scanWhole_sound scannedWhole
  obtain ⟨rfl, decimal⟩ := scanFraction_sound scannedFraction
  obtain ⟨rfl, isExponent⟩ := scanExponent_sound scannedExponent
  refine ⟨by simp [Numeral.magnitudeText], rfl, ?_⟩
  rw [Numeral.wellFormed, isWhole, decimal, isExponent]
  rfl

/-- An exponent does not start with a digit or a point. -/
theorem notNext_exponentText {exponent : Option Exponent}
    (wellFormed : exponent.all Exponent.wellFormed) (stop : NotNext continuesNumeral rest) :
    NotNext (fun c => c.isDigit || c == '.') (exponentText exponent ++ rest) := by
  cases exponent with
  | none =>
      refine stop.mono fun c continued => ?_
      rw [continuesNumeral, continued]
      rfl
  | some exponent =>
      simp only [Option.all_some, Exponent.wellFormed, Bool.and_eq_true, Bool.or_eq_true,
        beq_iff_eq] at wellFormed
      change NotNext _ (exponent.mark :: _)
      rw [notNext_cons]
      rcases wellFormed.1.1.1 with mark | mark <;> rw [mark] <;> decide

theorem scanNumeral_text {numeral : Numeral} (wellFormed : numeral.wellFormed)
    (stop : NotNext continuesNumeral rest) :
    scanNumeral numeral.negative (numeral.magnitudeText ++ rest) = .ok (numeral, rest) := by
  rw [Numeral.wellFormed, Bool.and_eq_true, Bool.and_eq_true] at wellFormed
  obtain ⟨⟨isWhole, decimal⟩, isExponent⟩ := wellFormed
  have stopFraction := notNext_exponentText isExponent stop
  have stopWhole : NotNext Char.isDigit
      (fractionText numeral.fraction ++ (exponentText numeral.exponent ++ rest)) := by
    unfold fractionText
    split
    · exact stopFraction.mono fun c digit => by simp [digit]
    · rw [List.cons_append, notNext_cons]
      decide
  rw [Numeral.magnitudeText, List.append_assoc, List.append_assoc, scanNumeral,
    scanWhole_text isWhole stopWhole]
  change (scanFraction _ >>= _) = _
  rw [scanFraction_text decimal stopFraction]
  change (scanExponent _ >>= _) = _
  rw [scanExponent_text isExponent stop]
  rfl

end OptionSchema.Json
