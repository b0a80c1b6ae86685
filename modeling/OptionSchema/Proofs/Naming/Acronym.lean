import OptionSchema.Proofs.Naming.Identifier

/-!
# Leading acronyms

An identifier that starts with capital letters starts with an acronym: all of them, or all but the
last one if that one starts a word. Main statement: `unexport_lowers_acronym`. Nothing but the
acronym, or else the first character, is written in small letters, so nothing is left to lower the
second time (`unexport_eq_self`).
-/

namespace OptionSchema.Naming

open Text (isAscii isCapital isSmall of_isAscii smallForm)

variable {identifier : String} {text run rest : List Char} {c : Char}

/-- A text is a run of capital letters and a rest that starts with none. -/
structure LeadingCapitals (text run rest : List Char) : Prop where
  text_eq : text = run ++ rest
  capitals : ∀ c ∈ run, c.isUpper = true
  ends : ∀ c ∈ rest.head?, c.isUpper = false

theorem exists_leadingCapitals (text : List Char) : ∃ run rest, LeadingCapitals text run rest := by
  refine ⟨text.takeWhile Char.isUpper, text.dropWhile Char.isUpper,
    List.takeWhile_append_dropWhile.symm, List.all_eq_true.mp List.all_takeWhile, ?_⟩
  intro c isFirst
  have stops := List.head?_dropWhile_not Char.isUpper text
  rw [Option.mem_def.mp isFirst] at stops
  simpa using stops

/-! ## ASCII letters -/

theorem isCapital_of_isAscii (ascii : isAscii c = true) : isCapital c = c.isUpper :=
  if_pos ascii

theorem isSmall_of_isAscii (ascii : isAscii c = true) : isSmall c = c.isLower :=
  if_pos ascii

theorem flatMap_smallForm (ascii : ∀ c ∈ text, isAscii c = true) :
    text.flatMap smallForm = text.map Char.toLower := by
  rw [← List.flatMap_singleton' (text.map Char.toLower), List.flatMap_map]
  exact List.flatMap_congr fun c member => if_pos (ascii c member)

theorem isAscii_toLower (ascii : isAscii c = true) : isAscii c.toLower = true :=
  of_isAscii (p := fun c => isAscii c.toLower = true) (by decide) ascii

theorem isUpper_toLower (ascii : isAscii c = true) : c.toLower.isUpper = false :=
  of_isAscii (p := fun c => c.toLower.isUpper = false) (by decide) ascii

theorem toLower_of_isUpper_eq_false (ascii : isAscii c = true) (noCapital : c.isUpper = false) :
    c.toLower = c :=
  of_isAscii (p := fun c => c.isUpper = false → c.toLower = c) (by decide) ascii noCapital

/-! ## The acronym -/

theorem takeWhile_isCapital (ascii : ∀ c ∈ text, isAscii c = true)
    (leads : LeadingCapitals text run rest) : text.takeWhile isCapital = run := by
  obtain ⟨rfl, capitals, ends⟩ := leads
  obtain ⟨asciiRun, asciiRest⟩ := List.forall_mem_append.mp ascii
  have stops : rest.takeWhile isCapital = [] := by
    cases rest with
    | nil => rfl
    | cons c rest =>
        have noCapital : isCapital c = false := by
          rw [isCapital_of_isAscii (asciiRest c (List.mem_cons_self ..))]
          exact ends c rfl
        rw [List.takeWhile_cons_of_neg (by simp [noCapital])]
  rw [List.takeWhile_append_of_pos fun c member => by
    rw [isCapital_of_isAscii (asciiRun c member), capitals c member], stops, List.append_nil]

theorem acronymLength_eq (ascii : ∀ c ∈ text, isAscii c = true)
    (leads : LeadingCapitals text run rest) :
    acronymLength text =
      if 2 ≤ run.length ∧ rest.head?.any Char.isLower then run.length - 1
      else max run.length 1 := by
  have next : text[run.length]? = rest.head? := by
    rw [leads.text_eq, List.getElem?_append_right (Nat.le_refl _), Nat.sub_self,
      List.head?_eq_getElem?]
  have small : rest.head?.any isSmall = rest.head?.any Char.isLower := by
    rw [leads.text_eq, List.forall_mem_append] at ascii
    cases rest with
    | nil => rfl
    | cons c rest => exact isSmall_of_isAscii (ascii.2 c (List.mem_cons_self ..))
  simp only [acronymLength, takeWhile_isCapital ascii leads, next, small]
  rfl

/-- At least one character is lowered, if there is one. -/
theorem acronymLength_pos (ascii : ∀ c ∈ text, isAscii c = true) : 0 < acronymLength text := by
  obtain ⟨run, rest, leads⟩ := exists_leadingCapitals text
  rw [acronymLength_eq ascii leads]
  split <;> omega

theorem toList_unexport (ascii : IsAsciiText identifier) :
    (unexport identifier).toList =
      (identifier.toList.take (acronymLength identifier.toList)).map Char.toLower ++
        identifier.toList.drop (acronymLength identifier.toList) := by
  rw [unexport, String.toList_ofList,
    flatMap_smallForm fun c member => ascii c (List.mem_of_mem_take member)]

theorem isAsciiText_unexport (ascii : IsAsciiText identifier) : IsAsciiText (unexport identifier) := by
  rw [IsAsciiText, toList_unexport ascii, List.forall_mem_append, List.forall_mem_map]
  exact ⟨fun c member => isAscii_toLower (ascii c (List.mem_of_mem_take member)),
    fun c member => ascii c (List.mem_of_mem_drop member)⟩

theorem head?_unexport (ascii : IsAsciiText identifier) :
    ∀ c ∈ (unexport identifier).toList.head?, c.isUpper = false := by
  have positive := acronymLength_pos ascii
  rw [toList_unexport ascii]
  cases chars : identifier.toList with
  | nil => simp
  | cons first rest =>
      obtain ⟨length, size⟩ := Nat.exists_eq_add_one_of_ne_zero (Nat.ne_of_gt positive)
      rw [chars] at size
      rw [size, List.take_succ_cons, List.map_cons, List.cons_append, List.head?_cons]
      rintro c ⟨⟩
      exact isUpper_toLower (ascii first (chars ▸ List.mem_cons_self ..))

/-- An identifier that does not start with a capital letter stays as it is. -/
theorem unexport_eq_self (ascii : IsAsciiText identifier)
    (start : ∀ c ∈ identifier.toList.head?, c.isUpper = false) : unexport identifier = identifier := by
  have none : LeadingCapitals identifier.toList [] identifier.toList :=
    ⟨rfl, List.forall_mem_nil _, start⟩
  have one : acronymLength identifier.toList = 1 := by
    rw [acronymLength_eq ascii none]
    rfl
  rw [← String.toList_inj, toList_unexport ascii, one]
  cases chars : identifier.toList with
  | nil => rfl
  | cons first rest =>
      have same : first.toLower = first :=
        toLower_of_isUpper_eq_false (ascii first (chars ▸ List.mem_cons_self ..))
          (start first (by rw [chars]; rfl))
      simp [same]

/-- Lowering changes the case of the first characters only and leaves no capital letter in front. Of
two or more leading capital letters with a small letter behind them all but the last one are lowered,
otherwise all of them, and in any case the first character. Lowering again changes nothing. -/
theorem unexport_lowers_acronym (ascii : IsAsciiText identifier) :
    (unexport identifier).length = identifier.length ∧
    (∃ run rest lowered kept, LeadingCapitals identifier.toList run rest ∧
      identifier.toList = lowered ++ kept ∧
      (unexport identifier).toList = lowered.map Char.toLower ++ kept ∧
      lowered.length =
        if 2 ≤ run.length ∧ rest.head?.any Char.isLower then run.length - 1
        else max run.length (min 1 identifier.length)) ∧
    (∀ c ∈ (unexport identifier).toList.head?, c.isUpper = false) ∧
    unexport (unexport identifier) = unexport identifier := by
  refine ⟨?_, ?_, head?_unexport ascii,
    unexport_eq_self (isAsciiText_unexport ascii) (head?_unexport ascii)⟩
  · rw [← String.length_toList, ← String.length_toList, toList_unexport ascii, List.length_append,
      List.length_map, ← List.length_append, List.take_append_drop]
  · obtain ⟨run, rest, leads⟩ := exists_leadingCapitals identifier.toList
    refine ⟨run, rest, _, _, leads, (List.take_append_drop _ _).symm, toList_unexport ascii, ?_⟩
    have size : identifier.length = run.length + rest.length := by
      rw [← String.length_toList, leads.text_eq, List.length_append]
    rw [List.length_take, acronymLength_eq ascii leads, String.length_toList]
    split <;> omega

/-- A leading acronym with a word behind it. -/
theorem unexport_httpServer :
    IsAsciiText "HTTPServer" ∧ unexport "HTTPServer" = "httpServer" ∧
      unexport "httpServer" = "httpServer" := by
  have ascii : IsAsciiText "HTTPServer" := by decide
  have lowered : unexport "HTTPServer" = "httpServer" := by decide +kernel
  obtain ⟨-, -, -, again⟩ := unexport_lowers_acronym ascii
  rw [lowered] at again
  exact ⟨ascii, lowered, again⟩

end OptionSchema.Naming
