import OptionSchema.Proofs.Json.Token
import OptionSchema.Proofs.Json.Tree

/-!
# Scanning is the inverse of writing

Main statement: `Tree.ofText?_eq_ok_iff`. A text has a tree exactly if the tree is well formed and
the text is that of the tree between blanks. Nothing of the text is lost, and no two trees compete
for it.
-/

namespace OptionSchema.Json

variable {text rest : List Char} {fuel : Nat}

theorem notNext_of_startsValue {c : Char} (start : startsValue c) (rest : List Char) :
    NotNext isGap (c :: rest) := by
  rw [notNext_cons]
  simp only [startsValue, Bool.and_eq_true, Bool.not_eq_true'] at start
  exact start.1.1.1

/-- Blanks end at the first character that is none. -/
theorem span_gap {gap : List Char} {c : Char} (blank : gap.all isGap) (other : isGap c = false)
    (text : List Char) : (gap ++ c :: text).span isGap = (gap, c :: text) :=
  span_run blank ((notNext_cons isGap c text).mpr other)

/-- Blanks do not continue a numeral, and neither does what follows them if it would not itself. -/
theorem notNext_numeral_gap {gap : List Char} (blank : gap.all isGap)
    (stop : NotNext continuesNumeral rest) : NotNext continuesNumeral (gap ++ rest) := by
  cases gap with
  | nil => exact stop
  | cons c gap =>
      rw [List.all_cons, Bool.and_eq_true] at blank
      have isBlank := blank.1
      simp only [isGap, Bool.or_eq_true, beq_iff_eq] at isBlank
      rw [List.cons_append, notNext_cons]
      rcases isBlank with ((rfl | rfl) | rfl) | rfl <;> decide

/-! ## What a scan finds -/

def FindsTree (fuel : Nat) : Prop :=
  ∀ {text rest tree}, scanValue fuel text = .ok (tree, rest) →
    text = tree.text ++ rest ∧ tree.wellFormed = true

def FindsItems (fuel : Nat) : Prop :=
  ∀ {before text rest items}, before.all isGap = true →
    scanItems fuel before text = .ok (items, rest) →
    before ++ text = itemsText items ++ ']' :: rest ∧ items ≠ [] ∧ itemsWellFormed items = true

def FindsMembers (fuel : Nat) : Prop :=
  ∀ {before text rest members}, before.all isGap = true →
    scanMembers fuel before text = .ok (members, rest) →
    before ++ text = membersText members ++ '}' :: rest ∧ members ≠ [] ∧
      membersWellFormed members = true

theorem findsItems_succ (findsTree : FindsTree fuel) (findsItems : FindsItems fuel) :
    FindsItems (fuel + 1) := by
  intro before text rest items blankBefore scanned
  rw [scanItems.eq_def] at scanned
  simp only [Outcome.bind_eq_ok] at scanned
  obtain ⟨⟨tree, afterTree⟩, scannedTree, scanned⟩ := scanned
  obtain ⟨rfl, wellFormed⟩ := findsTree scannedTree
  obtain ⟨after, behind, rfl, spanned, blankAfter⟩ := exists_span isGap afterTree
  simp only [spanned] at scanned
  split at scanned
  · next behind =>
      obtain ⟨gap, next, rfl, spannedNext, blankGap⟩ := exists_span isGap behind
      simp only [spannedNext, Outcome.bind_eq_ok, Outcome.pure_eq_ok] at scanned
      obtain ⟨⟨items, rest'⟩, scannedItems, same⟩ := scanned
      cases same
      obtain ⟨sameText, more, wellFormedItems⟩ := findsItems blankGap scannedItems
      refine ⟨?_, List.cons_ne_nil _ _, ?_⟩
      · rw [itemsText_cons_of_ne_nil _ more]
        simp [sameText]
      · rw [itemsWellFormed, blankBefore, wellFormed, blankAfter, wellFormedItems]
        rfl
  · cases scanned
    refine ⟨?_, List.cons_ne_nil _ _, ?_⟩
    · rw [itemsText_singleton]
      simp
    · rw [itemsWellFormed, blankBefore, wellFormed, blankAfter]
      rfl
  · cases scanned
  · cases scanned

theorem findsMembers_succ (findsTree : FindsTree fuel) (findsMembers : FindsMembers fuel) :
    FindsMembers (fuel + 1) := by
  intro before text rest members blankBefore scanned
  rw [scanMembers.eq_def] at scanned
  dsimp only at scanned
  split at scanned
  · cases scanned
  · next text =>
      simp only [Outcome.bind_eq_ok] at scanned
      obtain ⟨⟨key, afterKey⟩, scannedKey, scanned⟩ := scanned
      obtain ⟨rfl, isBody⟩ := scanStringBody_sound scannedKey
      obtain ⟨keyAfter, behindKey, rfl, spannedKey, blankKeyAfter⟩ := exists_span isGap afterKey
      simp only [spannedKey] at scanned
      split at scanned
      · cases scanned
      · next behindColon =>
          obtain ⟨valueBefore, value, rfl, spannedColon, blankValueBefore⟩ :=
            exists_span isGap behindColon
          simp only [spannedColon, Outcome.bind_eq_ok] at scanned
          obtain ⟨⟨tree, afterTree⟩, scannedTree, scanned⟩ := scanned
          obtain ⟨rfl, wellFormed⟩ := findsTree scannedTree
          obtain ⟨after, behind, rfl, spanned, blankAfter⟩ := exists_span isGap afterTree
          simp only [spanned] at scanned
          split at scanned
          · next behind =>
              obtain ⟨gap, next, rfl, spannedNext, blankGap⟩ := exists_span isGap behind
              simp only [spannedNext, Outcome.bind_eq_ok, Outcome.pure_eq_ok] at scanned
              obtain ⟨⟨members, rest'⟩, scannedMembers, same⟩ := scanned
              cases same
              obtain ⟨sameText, more, wellFormedMembers⟩ := findsMembers blankGap scannedMembers
              refine ⟨?_, List.cons_ne_nil _ _, ?_⟩
              · rw [membersText_cons_of_ne_nil _ _ more]
                simp [sameText, stringText]
              · rw [membersWellFormed, blankBefore, isBody, blankKeyAfter, blankValueBefore,
                  wellFormed, blankAfter, wellFormedMembers]
                rfl
          · cases scanned
            refine ⟨?_, List.cons_ne_nil _ _, ?_⟩
            · rw [membersText_singleton]
              simp [stringText]
            · rw [membersWellFormed, blankBefore, isBody, blankKeyAfter, blankValueBefore,
                wellFormed, blankAfter]
              rfl
          · cases scanned
          · cases scanned
      · cases scanned
  · cases scanned

theorem findsTree_succ (findsItems : FindsItems fuel) (findsMembers : FindsMembers fuel) :
    FindsTree (fuel + 1) := by
  intro text rest tree scanned
  rw [scanValue.eq_def] at scanned
  dsimp only at scanned
  split at scanned
  · cases scanned
  · obtain ⟨rfl, rfl⟩ := scanLetters_sound scanned
    exact ⟨rfl, rfl⟩
  · obtain ⟨rfl, rfl⟩ := scanLetters_sound scanned
    exact ⟨rfl, rfl⟩
  · obtain ⟨rfl, rfl⟩ := scanLetters_sound scanned
    exact ⟨rfl, rfl⟩
  · obtain ⟨body, scanned, rfl⟩ := map_eq_ok_scanned (f := Tree.string) scanned
    obtain ⟨rfl, isBody⟩ := scanStringBody_sound scanned
    exact ⟨by simp [Tree.text, stringText], isBody⟩
  · obtain ⟨numeral, scanned, rfl⟩ := map_eq_ok_scanned (f := Tree.number) scanned
    obtain ⟨rfl, negative, wellFormed⟩ := scanNumeral_sound scanned
    exact ⟨by simp [Tree.text, Numeral.text_eq, negative], wellFormed⟩
  · next text =>
      obtain ⟨gap, behind, rfl, spanned, blank⟩ := exists_span isGap text
      simp only [spanned] at scanned
      split at scanned
      · cases scanned
      · cases scanned
        exact ⟨by simp [Tree.text, itemsText], by simp [Tree.wellFormed, blank, itemsWellFormed]⟩
      · obtain ⟨items, scanned, rfl⟩ := map_eq_ok_scanned (f := Tree.array []) scanned
        obtain ⟨sameText, -, wellFormed⟩ := findsItems blank scanned
        exact ⟨by simp [Tree.text, sameText], by simp [Tree.wellFormed, wellFormed]⟩
  · next text =>
      obtain ⟨gap, behind, rfl, spanned, blank⟩ := exists_span isGap text
      simp only [spanned] at scanned
      split at scanned
      · cases scanned
      · cases scanned
        exact ⟨by simp [Tree.text, membersText], by simp [Tree.wellFormed, blank, membersWellFormed]⟩
      · obtain ⟨members, scanned, rfl⟩ := map_eq_ok_scanned (f := Tree.object []) scanned
        obtain ⟨sameText, -, wellFormed⟩ := findsMembers blank scanned
        exact ⟨by simp [Tree.text, sameText], by simp [Tree.wellFormed, wellFormed]⟩
  · split at scanned
    · obtain ⟨numeral, scanned, rfl⟩ := map_eq_ok_scanned (f := Tree.number) scanned
      obtain ⟨sameText, negative, wellFormed⟩ := scanNumeral_sound scanned
      exact ⟨by simp [Tree.text, Numeral.text_eq, negative, sameText], wellFormed⟩
    · cases scanned

/-- What scans find, by induction on the fuel. -/
theorem finds (fuel : Nat) : FindsTree fuel ∧ FindsItems fuel ∧ FindsMembers fuel := by
  induction fuel with
  | zero =>
      refine ⟨fun scanned => ?_, fun _ scanned => ?_, fun _ scanned => ?_⟩ <;> cases scanned
  | succ fuel ih =>
      obtain ⟨findsTree, findsItems, findsMembers⟩ := ih
      exact ⟨findsTree_succ findsItems findsMembers, findsItems_succ findsTree findsItems,
        findsMembers_succ findsTree findsMembers⟩

/-! ## What a scan misses -/

/-- A scan with enough fuel finds a tree at the start of a text, if it is well formed and what
follows does not continue it. -/
def IsFound (tree : Tree) : Prop :=
  tree.wellFormed = true → ∀ fuel rest, 2 * tree.text.length ≤ fuel →
    NotNext continuesNumeral rest → scanValue fuel (tree.text ++ rest) = .ok (tree, rest)

theorem scanValue_array {c : Char} {gap : List Char} (fuel : Nat) (blank : gap.all isGap)
    (start : startsValue c) (text : List Char) :
    scanValue (fuel + 1) ('[' :: (gap ++ c :: text)) =
      (scanItems fuel gap (c :: text)).map fun (items, rest) => (.array [] items, rest) := by
  have spanned := span_run blank (notNext_of_startsValue start text)
  rw [scanValue.eq_def]
  simp only [spanned]
  split
  · next same => cases same
  · next same =>
      cases same
      cases start
  · rfl

theorem scanValue_object {c : Char} {gap : List Char} (fuel : Nat) (blank : gap.all isGap)
    (start : startsValue c) (text : List Char) :
    scanValue (fuel + 1) ('{' :: (gap ++ c :: text)) =
      (scanMembers fuel gap (c :: text)).map fun (members, rest) => (.object [] members, rest) := by
  have spanned := span_run blank (notNext_of_startsValue start text)
  rw [scanValue.eq_def]
  simp only [spanned]
  split
  · next same => cases same
  · next same =>
      cases same
      cases start
  · rfl

theorem scanValue_empty_array {gap : List Char} (fuel : Nat) (blank : gap.all isGap)
    (rest : List Char) :
    scanValue (fuel + 1) ('[' :: (gap ++ ']' :: rest)) = .ok (.array gap [], rest) := by
  have spanned := span_gap (c := ']') blank (by decide) rest
  rw [scanValue.eq_def]
  simp only [spanned]

theorem scanValue_empty_object {gap : List Char} (fuel : Nat) (blank : gap.all isGap)
    (rest : List Char) :
    scanValue (fuel + 1) ('{' :: (gap ++ '}' :: rest)) = .ok (.object gap [], rest) := by
  have spanned := span_gap (c := '}') blank (by decide) rest
  rw [scanValue.eq_def]
  simp only [spanned]

section

variable {item : Padded Tree} (found : IsFound item.content)
  (wellFormed : item.content.wellFormed = true) (padded : item.isPadded = true)
  (enough : 2 * item.content.text.length ≤ fuel)

include found wellFormed padded enough

/-- An item in front of the closing bracket is the last one. -/
theorem scanItems_last (rest : List Char) :
    scanItems (fuel + 1) item.before (item.content.text ++ (item.after ++ ']' :: rest)) =
      .ok ([item], rest) := by
  obtain ⟨-, blank⟩ := Bool.and_eq_true_iff.mp padded
  have stop : NotNext continuesNumeral (item.after ++ ']' :: rest) :=
    notNext_numeral_gap blank (by simp [continuesNumeral])
  have scanned := found wellFormed fuel _ enough stop
  have spanned := span_gap (c := ']') blank (by decide) rest
  rw [scanItems.eq_def]
  simp only [scanned, bind, Except.bind, spanned]
  rfl

/-- An item in front of a comma is followed by others. -/
theorem scanItems_cons {c : Char} {gap : List Char} (blankGap : gap.all isGap)
    (start : startsValue c) {items : List (Padded Tree)}
    (others : scanItems fuel gap (c :: text) = .ok (items, rest)) :
    scanItems (fuel + 1) item.before
      (item.content.text ++ (item.after ++ ',' :: (gap ++ c :: text))) =
      .ok (item :: items, rest) := by
  obtain ⟨-, blank⟩ := Bool.and_eq_true_iff.mp padded
  have stop : NotNext continuesNumeral (item.after ++ ',' :: (gap ++ c :: text)) :=
    notNext_numeral_gap blank (by simp [continuesNumeral])
  have scanned := found wellFormed fuel _ enough stop
  have spanned := span_gap (c := ',') blank (by decide) (gap ++ c :: text)
  have spannedGap := span_run blankGap (notNext_of_startsValue start text)
  rw [scanItems.eq_def]
  simp only [scanned, bind, Except.bind, spanned, spannedGap, others]
  rfl

end

/-- Items are found up to the closing bracket, if each of them is. -/
theorem scanItems_text {item : Padded Tree} {items : List (Padded Tree)}
    (found : ∀ item' ∈ item :: items, IsFound item'.content)
    (wellFormed : ∀ item' ∈ item :: items, item'.isPadded = true ∧ item'.content.wellFormed = true)
    (rest : List Char) (fuel : Nat) (enough : 2 * (itemsText (item :: items)).length < fuel) :
    ∃ c text, startsValue c = true ∧ itemsText (item :: items) = item.before ++ c :: text ∧
      scanItems fuel item.before (c :: (text ++ ']' :: rest)) = .ok (item :: items, rest) := by
  induction items generalizing item fuel with
  | nil =>
      obtain ⟨padded, wellFormed⟩ := wellFormed item (by simp)
      obtain ⟨c, tail, sameText, start⟩ := Tree.text_start wellFormed
      obtain ⟨fuel, rfl⟩ : ∃ less, fuel = less + 1 := ⟨fuel - 1, by omega⟩
      rw [itemsText_singleton] at enough ⊢
      simp only [List.length_append] at enough
      refine ⟨c, tail ++ item.after, start, by simp [sameText], ?_⟩
      have enough' : 2 * item.content.text.length ≤ fuel := by omega
      have last := scanItems_last (found item (by simp)) wellFormed padded enough' rest
      rw [sameText] at last
      simpa using last
  | cons next items ih =>
      rw [List.forall_mem_cons] at found wellFormed
      obtain ⟨foundFirst, foundOthers⟩ := found
      obtain ⟨⟨padded, wellFormedFirst⟩, wellFormedOthers⟩ := wellFormed
      obtain ⟨c, tail, sameText, start⟩ := Tree.text_start wellFormedFirst
      obtain ⟨fuel, rfl⟩ : ∃ less, fuel = less + 1 := ⟨fuel - 1, by omega⟩
      rw [itemsText_cons] at enough ⊢
      simp only [List.length_append, List.length_cons] at enough
      obtain ⟨d, text, startNext, sameItems, others⟩ :=
        ih foundOthers wellFormedOthers fuel (by omega)
      have enough' : 2 * item.content.text.length ≤ fuel := by omega
      obtain ⟨blankNext, -⟩ := Bool.and_eq_true_iff.mp (wellFormedOthers next (by simp)).1
      refine ⟨c, tail ++ (item.after ++ ',' :: (next.before ++ d :: text)), start,
        by simp [sameText, sameItems], ?_⟩
      have cons := scanItems_cons foundFirst wellFormedFirst padded enough' blankNext startNext others
      rw [sameText] at cons
      simpa using cons

section

variable {key : Padded (List Char)} {value : Padded Tree} (isBody : isStringBody key.content = true)
  (paddedKey : key.isPadded = true) (found : IsFound value.content)
  (wellFormed : value.content.wellFormed = true) (padded : value.isPadded = true)
  (enough : 2 * value.content.text.length ≤ fuel)

include isBody paddedKey found wellFormed padded enough

/-- A member in front of the closing brace is the last one. -/
theorem scanMembers_last (rest : List Char) :
    scanMembers (fuel + 1) key.before
      ('"' :: (key.content ++ '"' :: (key.after ++ ':' ::
        (value.before ++ (value.content.text ++ (value.after ++ '}' :: rest)))))) =
      .ok ([(key, value)], rest) := by
  obtain ⟨-, blankKey⟩ := Bool.and_eq_true_iff.mp paddedKey
  obtain ⟨blankBefore, blankAfter⟩ := Bool.and_eq_true_iff.mp padded
  obtain ⟨c, tail, sameText, start⟩ := Tree.text_start wellFormed
  have stop : NotNext continuesNumeral (value.after ++ '}' :: rest) :=
    notNext_numeral_gap blankAfter (by simp [continuesNumeral])
  have scanned := found wellFormed fuel _ enough stop
  have spannedKey := span_gap (c := ':') blankKey (by decide)
  have spannedBefore : (value.before ++ (value.content.text ++ (value.after ++ '}' :: rest))).span
      isGap = (value.before, value.content.text ++ (value.after ++ '}' :: rest)) := by
    rw [sameText]
    exact span_run blankBefore (notNext_of_startsValue start _)
  have spannedAfter := span_gap (c := '}') blankAfter (by decide) rest
  rw [scanMembers.eq_def]
  simp only [scanStringBody_text isBody, bind, Except.bind, spannedKey, spannedBefore, scanned,
    spannedAfter]
  rfl

/-- A member in front of a comma is followed by others. -/
theorem scanMembers_cons {gap : List Char} (blankGap : gap.all isGap)
    {members : List (Padded (List Char) × Padded Tree)}
    (others : scanMembers fuel gap ('"' :: text) = .ok (members, rest)) :
    scanMembers (fuel + 1) key.before
      ('"' :: (key.content ++ '"' :: (key.after ++ ':' :: (value.before ++ (value.content.text ++
        (value.after ++ ',' :: (gap ++ '"' :: text))))))) =
      .ok ((key, value) :: members, rest) := by
  obtain ⟨-, blankKey⟩ := Bool.and_eq_true_iff.mp paddedKey
  obtain ⟨blankBefore, blankAfter⟩ := Bool.and_eq_true_iff.mp padded
  obtain ⟨c, tail, sameText, start⟩ := Tree.text_start wellFormed
  have stop : NotNext continuesNumeral (value.after ++ ',' :: (gap ++ '"' :: text)) :=
    notNext_numeral_gap blankAfter (by simp [continuesNumeral])
  have scanned := found wellFormed fuel _ enough stop
  have spannedKey := span_gap (c := ':') blankKey (by decide)
  have spannedBefore :
      (value.before ++ (value.content.text ++ (value.after ++ ',' :: (gap ++ '"' :: text)))).span
        isGap = (value.before, value.content.text ++ (value.after ++ ',' :: (gap ++ '"' :: text))) := by
    rw [sameText]
    exact span_run blankBefore (notNext_of_startsValue start _)
  have spannedAfter := span_gap (c := ',') blankAfter (by decide) (gap ++ '"' :: text)
  have spannedGap := span_gap (c := '"') blankGap (by decide) text
  rw [scanMembers.eq_def]
  simp only [scanStringBody_text isBody, bind, Except.bind, spannedKey, spannedBefore, scanned,
    spannedAfter, spannedGap, others]
  rfl

end

/-- Members are found up to the closing brace, if each of their values is. -/
theorem scanMembers_text {key : Padded (List Char)} {value : Padded Tree}
    {members : List (Padded (List Char) × Padded Tree)}
    (found : ∀ member ∈ (key, value) :: members, IsFound member.2.content)
    (wellFormed : ∀ member ∈ (key, value) :: members, member.1.isPadded = true ∧
      isStringBody member.1.content = true ∧ member.2.isPadded = true ∧
      member.2.content.wellFormed = true)
    (rest : List Char) (fuel : Nat)
    (enough : 2 * (membersText ((key, value) :: members)).length < fuel) :
    ∃ text, membersText ((key, value) :: members) = key.before ++ '"' :: text ∧
      scanMembers fuel key.before ('"' :: (text ++ '}' :: rest)) =
        .ok ((key, value) :: members, rest) := by
  induction members generalizing key value fuel with
  | nil =>
      obtain ⟨paddedKey, isBody, padded, wellFormed⟩ := wellFormed (key, value) (by simp)
      obtain ⟨fuel, rfl⟩ : ∃ less, fuel = less + 1 := ⟨fuel - 1, by omega⟩
      rw [membersText_singleton] at enough ⊢
      simp only [List.length_append, List.length_cons] at enough
      refine ⟨_, rfl, ?_⟩
      have enough' : 2 * value.content.text.length ≤ fuel := by omega
      have last := scanMembers_last isBody paddedKey (found (key, value) (by simp)) wellFormed padded
        enough' rest
      simpa using last
  | cons next members ih =>
      obtain ⟨nextKey, nextValue⟩ := next
      rw [List.forall_mem_cons] at found wellFormed
      obtain ⟨foundFirst, foundOthers⟩ := found
      obtain ⟨⟨paddedKey, isBody, padded, wellFormedFirst⟩, wellFormedOthers⟩ := wellFormed
      obtain ⟨fuel, rfl⟩ : ∃ less, fuel = less + 1 := ⟨fuel - 1, by omega⟩
      rw [membersText_cons] at enough ⊢
      simp only [List.length_append, List.length_cons] at enough
      obtain ⟨text, sameMembers, others⟩ :=
        ih foundOthers wellFormedOthers fuel (by omega)
      have enough' : 2 * value.content.text.length ≤ fuel := by omega
      obtain ⟨blankNext, -⟩ := Bool.and_eq_true_iff.mp (wellFormedOthers (nextKey, nextValue)
        (by simp)).1
      refine ⟨_, rfl, ?_⟩
      have cons := scanMembers_cons isBody paddedKey foundFirst wellFormedFirst padded enough'
        blankNext others
      simpa [sameMembers] using cons

/-! ## The tree of a text -/

theorem scanValue_digit {c : Char} (digit : c.isDigit) (fuel : Nat) (text : List Char) :
    scanValue (fuel + 1) (c :: text) =
      (scanNumeral false (c :: text)).map fun (numeral, rest) => (.number numeral, rest) := by
  rw [scanValue.eq_def]
  dsimp only
  split
  · next same => cases same
  iterate 7
    next same =>
      cases same
      cases digit
  · next same =>
      cases same
      exact if_pos digit

theorem scanValue_numeral {numeral : Numeral} (fuel : Nat) (wellFormed : numeral.wellFormed)
    (stop : NotNext continuesNumeral rest) :
    scanValue (fuel + 1) (numeral.text ++ rest) = .ok (.number numeral, rest) := by
  have scanned := scanNumeral_text wellFormed stop
  rw [Numeral.text_eq]
  cases negative : numeral.negative with
  | true =>
      rw [negative] at scanned
      change (scanNumeral true (numeral.magnitudeText ++ rest)).map _ = _
      rw [scanned]
      rfl
  | false =>
      rw [negative] at scanned
      obtain ⟨c, digits, whole, digit⟩ := Numeral.whole_start wellFormed
      have same : numeral.magnitudeText ++ rest =
          c :: (digits ++ (fractionText numeral.fraction ++ (exponentText numeral.exponent ++ rest))) := by
        simp [Numeral.magnitudeText, whole]
      change scanValue (fuel + 1) (numeral.magnitudeText ++ rest) = _
      rw [same] at scanned ⊢
      rw [scanValue_digit digit, scanned]
      rfl

theorem IsFound.number (numeral : Numeral) : IsFound (.number numeral) := by
  intro wellFormed fuel rest enough stop
  obtain ⟨c, text, same, -⟩ : ∃ c text, (Tree.number numeral).text = c :: text ∧ _ :=
    Tree.text_start wellFormed
  rw [same, List.length_cons] at enough
  obtain ⟨fuel, rfl⟩ : ∃ less, fuel = less + 1 := ⟨fuel - 1, by omega⟩
  exact scanValue_numeral fuel wellFormed stop

theorem IsFound.string (body : List Char) : IsFound (.string body) := by
  intro wellFormed fuel rest enough _
  obtain ⟨fuel, rfl⟩ : ∃ less, fuel = less + 1 :=
    ⟨fuel - 1, by simp [Tree.text, stringText] at enough; omega⟩
  have scanned := scanStringBody_text wellFormed rest
  simp [Tree.text, stringText, scanValue, scanned, Except.map]

/-- An array is found if each of its items is. -/
theorem IsFound.array {gap : List Char} {items : List (Padded Tree)}
    (found : ∀ item ∈ items, IsFound item.content) : IsFound (.array gap items) := by
  intro wellFormed fuel rest enough _
  rw [Tree.wellFormed, Bool.and_eq_true, Bool.and_eq_true, itemsWellFormed_iff] at wellFormed
  obtain ⟨⟨blank, gapless⟩, wellFormedItems⟩ := wellFormed
  simp only [Tree.text, List.length_append, List.length_cons] at enough
  obtain ⟨fuel, rfl⟩ : ∃ less, fuel = less + 1 := ⟨fuel - 1, by omega⟩
  cases items with
  | nil => simpa [Tree.text, itemsText] using scanValue_empty_array fuel blank rest
  | cons item items =>
      obtain rfl : gap = [] := by simpa using gapless
      obtain ⟨c, text, start, sameText, scanned⟩ :=
        scanItems_text found wellFormedItems rest fuel (by omega)
      obtain ⟨blankBefore, -⟩ := Bool.and_eq_true_iff.mp (wellFormedItems item (by simp)).1
      have value := scanValue_array fuel blankBefore start (text ++ ']' :: rest)
      rw [scanned] at value
      simpa [Tree.text, sameText, Except.map] using value

/-- An object is found if the values of its members are. -/
theorem IsFound.object {gap : List Char} {members : List (Padded (List Char) × Padded Tree)}
    (found : ∀ member ∈ members, IsFound member.2.content) : IsFound (.object gap members) := by
  intro wellFormed fuel rest enough _
  rw [Tree.wellFormed, Bool.and_eq_true, Bool.and_eq_true, membersWellFormed_iff] at wellFormed
  obtain ⟨⟨blank, gapless⟩, wellFormedMembers⟩ := wellFormed
  simp only [Tree.text, List.length_append, List.length_cons] at enough
  obtain ⟨fuel, rfl⟩ : ∃ less, fuel = less + 1 := ⟨fuel - 1, by omega⟩
  cases members with
  | nil => simpa [Tree.text, membersText] using scanValue_empty_object fuel blank rest
  | cons member members =>
      obtain ⟨key, padded⟩ := member
      obtain rfl : gap = [] := by simpa using gapless
      obtain ⟨text, sameText, scanned⟩ :=
        scanMembers_text found wellFormedMembers rest fuel (by omega)
      obtain ⟨blankBefore, -⟩ :=
        Bool.and_eq_true_iff.mp (wellFormedMembers (key, padded) (by simp)).1
      have value := scanValue_object (c := '"') fuel blankBefore (by decide)
        (text ++ '}' :: rest)
      rw [scanned] at value
      simpa [Tree.text, sameText, Except.map] using value

/-- Every tree is found. -/
theorem isFound (tree : Tree) : IsFound tree := by
  induction tree using Tree.induction with
  | null =>
      intro _ fuel rest enough _
      obtain ⟨fuel, rfl⟩ : ∃ less, fuel = less + 1 := ⟨fuel - 1, by simp [Tree.text] at enough; omega⟩
      exact scanLetters_text .null ['u', 'l', 'l'] rest
  | bool value =>
      intro _ fuel rest enough _
      obtain ⟨fuel, rfl⟩ : ∃ less, fuel = less + 1 :=
        ⟨fuel - 1, by cases value <;> simp [Tree.text] at enough <;> omega⟩
      cases value with
      | true => exact scanLetters_text (.bool true) ['r', 'u', 'e'] rest
      | false => exact scanLetters_text (.bool false) ['a', 'l', 's', 'e'] rest
  | number numeral => exact .number numeral
  | string body => exact .string body
  | array gap items found => exact .array found
  | object gap members found => exact .object found

/-- A tree stands in a text if it is well formed and the text is its own between blanks. -/
def Tree.StandsIn (tree : Tree) (text : List Char) : Prop :=
  tree.wellFormed = true ∧ ∃ before after : List Char, before.all isGap = true ∧
    after.all isGap = true ∧ text = before ++ (tree.text ++ after)

theorem Tree.standsIn_text {tree : Tree} (wellFormed : tree.wellFormed) :
    tree.StandsIn tree.text :=
  ⟨wellFormed, [], [], rfl, rfl, by simp⟩

theorem notNext_numeral_of_isGap {gap : List Char} (blank : gap.all isGap) :
    NotNext continuesNumeral gap := by
  simpa using notNext_numeral_gap blank (notNext_nil continuesNumeral)

theorem dropWhile_gap {gap : List Char} (blank : gap.all isGap) : gap.dropWhile isGap = [] := by
  simpa using dropWhile_run blank (notNext_nil isGap)

/-- A text has a tree exactly if the tree stands in it. -/
theorem Tree.ofText?_eq_ok_iff {text : List Char} {tree : Tree} :
    Tree.ofText? text = .ok tree ↔ tree.StandsIn text := by
  unfold Tree.ofText? scanFirst
  simp only [Outcome.bind_eq_ok]
  constructor
  · rintro ⟨⟨found, rest⟩, scanned, ended⟩
    dsimp only at ended
    split at ended
    · next blank =>
        cases ended
        obtain ⟨same, wellFormed⟩ := (finds _).1 scanned
        refine ⟨wellFormed, text.takeWhile isGap, rest, by simp, ?_, ?_⟩
        · simpa [List.dropWhile_eq_nil_iff] using blank
        · rw [← same, List.takeWhile_append_dropWhile]
    · cases ended
  · rintro ⟨wellFormed, before, after, blankBefore, blankAfter, rfl⟩
    obtain ⟨c, tail, sameText, start⟩ := Tree.text_start wellFormed
    have dropped : (before ++ (tree.text ++ after)).dropWhile isGap = tree.text ++ after := by
      refine dropWhile_run blankBefore ?_
      rw [sameText]
      exact notNext_of_startsValue start _
    refine ⟨(tree, after), ?_, ?_⟩
    · rw [dropped]
      exact isFound tree wellFormed _ _ (by simp only [List.length_append]; omega)
        (notNext_numeral_of_isGap blankAfter)
    · simp only [dropWhile_gap blankAfter]
      rfl

/-- Bytes that are no text have no tree. -/
theorem Tree.ofCells?_ne_ok (cells : List Text.Cell) (tree : Tree) :
    Tree.ofCells? cells ≠ .ok tree := by
  intro found
  rw [Tree.ofCells?, Outcome.bind_eq_ok] at found
  obtain ⟨_, -, found⟩ := found
  dsimp only at found
  split at found <;> cases found

/-- A document has a tree exactly if its bytes are those of a text in which the tree stands. -/
theorem Tree.ofBytes?_eq_ok_iff {bytes : ByteArray} {tree : Tree} :
    Tree.ofBytes? bytes = .ok tree ↔
      ∃ text : String, bytes = text.toUTF8 ∧ tree.StandsIn text.toList := by
  unfold Tree.ofBytes? String.fromUTF8?
  by_cases valid : bytes.IsValidUTF8
  · rw [dif_pos valid]
    have same : bytes = (String.fromUTF8 bytes valid).toUTF8 := rfl
    constructor
    · intro found
      exact ⟨_, same, Tree.ofText?_eq_ok_iff.mp found⟩
    · rintro ⟨text, other, stands⟩
      rw [same] at other
      rw [String.toByteArray_inj.mp other]
      exact Tree.ofText?_eq_ok_iff.mpr stands
  · rw [dif_neg valid]
    constructor
    · intro found
      exact absurd found (Tree.ofCells?_ne_ok _ tree)
    · rintro ⟨text, rfl, -⟩
      exact absurd text.isValidUTF8 valid

end OptionSchema.Json
