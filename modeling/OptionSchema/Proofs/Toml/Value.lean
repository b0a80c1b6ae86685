import OptionSchema.Proofs.Toml.Quoted

/-!
# Reading written values

Texts, truth values, natural numbers and lists of texts are read back from what is written for them.
A list may go over several lines.
-/

namespace OptionSchema.Toml

open Json (NotNext notNext_cons)

variable {c : Char} {run rest : List Char} {value : Value}

/-! ## Scalars without quotes -/

theorem scalarLength_run (all : run.all isScalarChar = true) :
    scalarLength (run ++ '\n' :: rest) = run.length := by
  induction run with
  | nil => rfl
  | cons c run ih =>
      rw [List.all_cons, Bool.and_eq_true] at all
      rw [List.cons_append, scalarLength, if_pos all.1, ih all.2, List.length_cons]

theorem bareScalar?_run (all : run.all isScalarChar = true) (isValue : scalar? run = some value) :
    bareScalar? (run ++ '\n' :: rest) = some (value, '\n' :: rest) := by
  simp only [bareScalar?, scalarLength_run all, List.take_left, List.drop_left, isValue,
    Option.map_some]

theorem isDigit_of_mem_decimalDigits {n : Nat} (member : c ∈ Text.decimalDigits n) :
    c.isDigit = true :=
  List.all_eq_true.mp (Text.all_isDigit_decimalDigits n) c member

/-- A number is written with zero in front only if it is zero. -/
theorem decimalDigits_leadingZero {n : Nat} (zero : (Text.decimalDigits n).head? = some '0') :
    (Text.decimalDigits n).length = 1 := by
  rcases Nat.eq_zero_or_pos n with rfl | positive
  · rfl
  · exact absurd zero (Text.head?_decimalDigits_ne positive)

theorem decimal?_decimalDigits (n : Nat) :
    decimal? false false (Text.decimalDigits n) = some (integerValue n) := by
  have digits := Text.all_isDigit_decimalDigits n
  have apart {d : Char} (other : d.isDigit = false) : ∀ c ∈ Text.decimalDigits n, (c == d) = false :=
    fun c member => beq_eq_false_iff_ne.mpr (ne_of_kind (isDigit_of_mem_decimalDigits member) other)
  have alone : Text.cut (· == '_') (Text.decimalDigits n) = [Text.decimalDigits n] :=
    Text.cut_eq_singleton (apart rfl)
  have noOther : (Text.decimalDigits n).any
      (fun c => c == '.' || c == 'e' || c == 'E' || c == ' ') = false := by
    rw [List.any_eq_false]
    intro c member
    rw [apart rfl c member, apart rfl c member, apart rfl c member, apart rfl c member]
    decide
  have isSome : (Text.decimalDigits n).isEmpty = false :=
    List.isEmpty_eq_false_iff.mpr (Text.decimalDigits_ne_nil n)
  have noLeadingZero : ((Text.decimalDigits n).head? == some '0' &&
      !(Text.decimalDigits n).length == 1) = false := by
    rw [Bool.and_eq_false_iff, beq_eq_false_iff_ne, Bool.not_eq_false', beq_iff_eq]
    exact (Classical.em _).symm.imp_right decimalDigits_leadingZero
  simp [decimal?, alone, noOther, digits, isSome, noLeadingZero, piecesFit]

theorem signed_of_isDigit (first : ∀ c ∈ run.head?, c.isDigit = true) :
    signed run = (false, run) := by
  unfold signed
  split
  · exact absurd (first _ rfl) (by decide)
  · exact absurd (first _ rfl) (by decide)
  · rfl

theorem integer?_decimalDigits (n : Nat) :
    integer? (Text.decimalDigits n) = some (integerValue n) := by
  have marked {mark : Char} {more : List Char} (other : mark.isDigit = false) :
      Text.decimalDigits n ≠ '0' :: mark :: more := by
    intro same
    have digit : mark.isDigit = true := @isDigit_of_mem_decimalDigits mark n (by simp [same])
    exact ne_of_kind digit other rfl
  -- no digit is the mark of another base
  unfold integer?
  split
  · next same => exact absurd same (marked rfl)
  · next same => exact absurd same (marked rfl)
  · next same => exact absurd same (marked rfl)
  · rw [signed_of_isDigit fun c first => isDigit_of_mem_decimalDigits (List.mem_of_mem_head? first)]
    dsimp only
    rw [decide_eq_false (Nat.lt_irrefl _)]
    exact decimal?_decimalDigits n

theorem scalar?_decimalDigits (n : Nat) :
    scalar? (Text.decimalDigits n) = some (integerValue n) := by
  have notWord {word : List Char} (letter : ∃ c ∈ word, c.isDigit = false) :
      (Text.decimalDigits n == word) = false := by
    obtain ⟨c, member, other⟩ := letter
    refine beq_eq_false_iff_ne.mpr ?_
    rintro rfl
    exact ne_of_kind (isDigit_of_mem_decimalDigits member) other rfl
  rw [scalar?, if_neg (by rw [notWord ⟨'t', by decide, rfl⟩]; decide),
    if_neg (by rw [notWord ⟨'f', by decide, rfl⟩]; decide), integer?_decimalDigits]
  rfl

/-! ## Values -/

theorem value?_string (levels fuel : Nat) (text : String) (ahead : NotNext isQuote rest) :
    value? levels (fuel + 1) (stringText text.toList ++ rest) = some (.string text, rest) := by
  have read := quoted?_stringText text.toList ahead
  obtain ⟨quote, more, same, quotes⟩ := exists_stringText text.toList
  rw [same, List.cons_append] at read ⊢
  rcases eq_of_isQuote quotes with rfl | rfl
  · rw [value?, read]
    simp
  · rw [value?, read]
    simp

/-- What is neither a quote nor a bracket or brace starts a scalar without quotes. -/
theorem value?_bare {levels fuel : Nat} {text : List Char}
    (first : ∀ c ∈ text.head?, isQuote c = false ∧ c ≠ '[' ∧ c ≠ '{') :
    value? levels (fuel + 1) text = bareScalar? text := by
  have not {d : Char} {more : List Char} (same : text = d :: more) := first d (same ▸ rfl)
  rw [value?]
  · exact fun more same => absurd (not same).1 (by decide)
  · exact fun more same => absurd (not same).1 (by decide)
  · exact fun _ more _ same => (not same).2.1 rfl
  · exact fun _ more _ same => (not same).2.2 rfl

/-- Blanks and line ends in front of a text in quotes are skipped. -/
theorem dropTrivia_stringText (text rest : List Char) :
    dropTrivia false (stringText text ++ rest) = stringText text ++ rest := by
  obtain ⟨quote, more, same, quotes⟩ := exists_stringText text
  rw [same]
  rcases eq_of_isQuote quotes with rfl | rfl <;> rfl

theorem dropTrivia_lineFeed (text : List Char) :
    dropTrivia false ('\n' :: text) = dropTrivia false text :=
  rfl

def itemLines (items : List String) : List Char :=
  items.flatMap fun item => [' ', ' ', ' ', ' '] ++ (stringText item.toList ++ [',', '\n'])

section

variable {levels fuel : Nat} {text : List Char} {item : Value}

theorem items?_next (first : ∀ c ∈ text.head?, c ≠ ']')
    (read : value? levels fuel text = some (item, ',' :: rest)) :
    items? levels (fuel + 1) text =
      (items? levels fuel (dropTrivia false rest)).map fun (items, rest) => (item :: items, rest) := by
  rw [items?, read]
  · change (items? levels fuel (dropTrivia false rest)).bind _ = _
    cases items? levels fuel (dropTrivia false rest) <;> rfl
  · rintro more rfl
    exact first _ rfl rfl

theorem items?_last (first : ∀ c ∈ text.head?, c ≠ ']')
    (read : value? levels fuel text = some (item, ']' :: rest)) :
    items? levels (fuel + 1) text = some ([item], rest) := by
  rw [items?, read]
  · rfl
  · rintro more rfl
    exact first _ rfl rfl

end

theorem head?_stringText {text rest : List Char} :
    ∀ c ∈ (stringText text ++ rest).head?, isQuote c = true := by
  obtain ⟨quote, more, same, quotes⟩ := exists_stringText text
  rw [same]
  rintro c first
  cases first
  exact quotes

theorem items?_itemLines {levels fuel : Nat} {items : List String} (enough : items.length < fuel) :
    items? levels (fuel + 1) (dropTrivia false (itemLines items ++ ']' :: rest)) =
      some (items.map .string, rest) := by
  induction items generalizing fuel with
  | nil =>
      rfl
  | cons item items ih =>
      cases fuel with
      | zero => cases enough
      | succ fuel =>
          have line : itemLines (item :: items) ++ ']' :: rest = [' ', ' ', ' ', ' '] ++
              (stringText item.toList ++ ',' :: '\n' :: (itemLines items ++ ']' :: rest)) := by
            simp [itemLines]
          have indented (text : List Char) :
              dropTrivia false ([' ', ' ', ' ', ' '] ++ text) = dropTrivia false text := rfl
          rw [line, indented, dropTrivia_stringText, items?_next
            (fun c first => ne_of_kind (head?_stringText c first) rfl)
            (value?_string levels fuel item (by simp [isQuote]))]
          rw [dropTrivia_lineFeed, ih (Nat.lt_of_succ_lt_succ enough)]
          rfl

theorem writeStrings_one (item : String) : writeStrings [item] = "[" ++ writeString item ++ "]" :=
  rfl

theorem writeStrings_lines {items : List String} (several : 2 ≤ items.length) :
    (writeStrings items).toList = '[' :: '\n' :: (itemLines items ++ [']']) := by
  have written : writeStrings items =
      "[\n" ++ String.join (items.map fun item => "    " ++ writeString item ++ ",\n") ++ "]" := by
    match items, several with
    | _ :: _ :: _, _ => rfl
  rw [written]
  simp [writeString, itemLines, List.flatMap_map]

theorem value?_strings {levels fuel : Nat} {items : List String} (enough : items.length + 2 < fuel) :
    value? (levels + 1) fuel ((writeStrings items).toList ++ rest) =
      some (.array (items.map .string), rest) := by
  obtain ⟨fuel, rfl⟩ : ∃ more, fuel = more + 3 := ⟨fuel - 3, by omega⟩
  match items, enough with
  | [], _ => rfl
  | [item], _ =>
      have written : (writeStrings [item]).toList ++ rest =
          '[' :: (stringText item.toList ++ ']' :: rest) := by
        simp [writeStrings_one, writeString]
      rw [written, value?, dropTrivia_stringText, items?_last
        (fun c first => ne_of_kind (head?_stringText c first) rfl)
        (value?_string levels fuel item (by simp [isQuote]))]
      rfl
  | first :: second :: others, enough =>
      have written : (writeStrings (first :: second :: others)).toList ++ rest =
          '[' :: '\n' :: (itemLines (first :: second :: others) ++ ']' :: rest) := by
        rw [writeStrings_lines (by simp)]
        simp
      rw [written, value?, dropTrivia_lineFeed, items?_itemLines (by omega)]
      rfl

/-! ## Values on a line -/

/-- On a line, a text is read as a value. -/
structure Spells (text : List Char) (value : Value) : Prop where
  starts : NotNext isSpace text
  reads : ∀ rest, readValue? (text ++ '\n' :: rest) = some (value, '\n' :: rest)

theorem isSpace_eq_false (notSpace : c ≠ ' ') (notTab : c ≠ '\t') : isSpace c = false := by
  simp [isSpace, notSpace, notTab]

theorem spells_string (text : String) : Spells (writeString text).toList (.string text) := by
  have written : (writeString text).toList = stringText text.toList := String.toList_ofList
  refine ⟨fun c first => ?_, fun rest => ?_⟩
  · have quotes := @head?_stringText text.toList [] c
    rw [List.append_nil] at quotes
    rw [written] at first
    exact isSpace_eq_false (ne_of_kind (quotes first) rfl) (ne_of_kind (quotes first) rfl)
  · rw [written]
    exact value?_string levelLimit _ text (by simp [isQuote])

theorem isScalarChar_spec (scalar : isScalarChar c = true) :
    isSpace c = false ∧ c ≠ '[' ∧ c ≠ '{' :=
  ⟨isSpace_eq_false (ne_of_kind scalar (by decide)) (ne_of_kind scalar (by decide)),
    ne_of_kind scalar (by decide), ne_of_kind scalar (by decide)⟩

theorem spells_run (all : run.all isScalarChar = true) (first : ∀ c ∈ run.head?, isQuote c = false)
    (isValue : scalar? run = some value) : Spells run value := by
  refine ⟨fun c start => ?_, fun rest => ?_⟩
  · exact (isScalarChar_spec (List.all_eq_true.mp all c (List.mem_of_mem_head? start))).1
  · refine Eq.trans (value?_bare fun c start => ?_) (bareScalar?_run all isValue)
    cases run with
    | nil =>
        cases start
        decide
    | cons d run =>
        cases start
        exact ⟨first _ rfl, (isScalarChar_spec (List.all_eq_true.mp all _ (List.mem_cons_self ..))).2⟩

theorem spells_bool (value : Bool) : Spells (writeBool value).toList (.boolean value) := by
  cases value with
  | false => exact spells_run (by decide) (by simp [writeBool, isQuote]) rfl
  | true => exact spells_run (by decide) (by simp [writeBool, isQuote]) rfl

theorem isScalarChar_of_isDigit (digit : c.isDigit = true) : isScalarChar c = true := by
  have others : "=,[]\x7b\x7d# \t\r\n".toList.all (fun d => !d.isDigit) = true := by decide
  rw [isScalarChar, Bool.not_eq_true', List.contains_eq_mem, decide_eq_false_iff_not]
  exact fun member => ne_of_kind digit (by simpa using List.all_eq_true.mp others c member) rfl

theorem isQuote_of_isDigit (digit : c.isDigit = true) : isQuote c = false :=
  isQuote_eq_false (ne_of_kind digit rfl) (ne_of_kind digit rfl)

theorem spells_decimal (n : Nat) : Spells (Text.decimal n).toList (integerValue n) := by
  rw [Text.decimal, String.toList_ofList]
  refine spells_run ?_ ?_ (scalar?_decimalDigits n)
  · exact List.all_eq_true.mpr fun c member =>
      isScalarChar_of_isDigit (isDigit_of_mem_decimalDigits member)
  · exact fun c first =>
      isQuote_of_isDigit (isDigit_of_mem_decimalDigits (List.mem_of_mem_head? first))

/-- Every item of a list takes some characters. -/
theorem length_lt_writeStrings (items : List String) :
    items.length < (writeStrings items).toList.length := by
  match items with
  | [] => decide
  | [item] => simp [writeStrings_one]
  | first :: second :: others =>
      have lines (items : List String) : items.length ≤ (itemLines items).length := by
        induction items with
        | nil => exact Nat.le_refl _
        | cons item items ih =>
            simp only [itemLines, List.flatMap_cons, List.length_append, List.length_cons] at ih ⊢
            omega
      have bound := lines (first :: second :: others)
      rw [writeStrings_lines (by simp)]
      simp only [List.length_cons, List.length_append] at bound ⊢
      omega

theorem spells_strings (items : List String) :
    Spells (writeStrings items).toList (.array (items.map .string)) := by
  refine ⟨?_, fun rest => @value?_strings _ 79 _ items ?_⟩
  · match items with
    | [] => exact (notNext_cons isSpace '[' [']']).mpr rfl
    | [item] =>
        rw [writeStrings_one]
        simp [isSpace]
    | first :: second :: others =>
        rw [writeStrings_lines (by simp), notNext_cons]
        rfl
  · have bound := length_lt_writeStrings items
    rw [List.length_append]
    omega

end OptionSchema.Toml
