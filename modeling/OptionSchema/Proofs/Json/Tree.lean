import Mathlib.Data.List.Basic
import OptionSchema.Proofs.Json.Numeral

/-!
# Induction on trees, and the texts of their parts

A property of trees holds of all if an array and an object have it whose items and members do. The
text of a well-formed tree starts with a character that is neither a blank nor closes a bracket.
-/

namespace OptionSchema.Json

/-- What holds of an array and an object whose items and members have it holds of every tree. -/
@[elab_as_elim]
theorem Tree.induction {motive : Tree → Prop} (null : motive .null)
    (bool : ∀ value, motive (.bool value)) (number : ∀ numeral, motive (.number numeral))
    (string : ∀ body, motive (.string body))
    (array : ∀ gap items, (∀ item ∈ items, motive item.content) → motive (.array gap items))
    (object : ∀ gap members, (∀ member ∈ members, motive member.2.content) →
      motive (.object gap members)) (tree : Tree) : motive tree := by
  refine @Tree.rec motive (fun items => ∀ item ∈ items, motive item.content)
    (fun members => ∀ member ∈ members, motive member.2.content) (fun padded => motive padded.content)
    (fun member => motive member.2.content) null bool number string array object ?_ ?_ ?_ ?_ ?_ ?_ tree
  case refine_1 => exact fun _ member => nomatch member
  case refine_3 => exact fun _ member => nomatch member
  case refine_2 => exact fun _ _ first others => List.forall_mem_cons.mpr ⟨first, others⟩
  case refine_4 => exact fun _ _ first others => List.forall_mem_cons.mpr ⟨first, others⟩
  case refine_5 => exact fun _ _ _ content => content
  case refine_6 => exact fun _ _ content => content

/-! ## Lists of items and members -/

theorem itemsText_singleton (item : Padded Tree) :
    itemsText [item] = item.before ++ (item.content.text ++ item.after) := by
  simp [itemsText]

theorem itemsText_cons (item next : Padded Tree) (rest : List (Padded Tree)) :
    itemsText (item :: next :: rest) =
      item.before ++ (item.content.text ++ (item.after ++ ',' :: itemsText (next :: rest))) := by
  rw [itemsText.eq_def]
  simp

theorem membersText_singleton (key : Padded (List Char)) (value : Padded Tree) :
    membersText [(key, value)] =
      key.before ++ (stringText key.content ++ (key.after ++ ':' ::
        (value.before ++ (value.content.text ++ value.after)))) := by
  simp [membersText]

theorem membersText_cons (key : Padded (List Char)) (value : Padded Tree)
    (next : Padded (List Char) × Padded Tree) (rest : List (Padded (List Char) × Padded Tree)) :
    membersText ((key, value) :: next :: rest) =
      key.before ++ (stringText key.content ++ (key.after ++ ':' ::
        (value.before ++ (value.content.text ++
          (value.after ++ ',' :: membersText (next :: rest)))))) := by
  rw [membersText.eq_def]
  simp

theorem membersText_cons_of_ne_nil (key : Padded (List Char)) (value : Padded Tree)
    {rest : List (Padded (List Char) × Padded Tree)} (more : rest ≠ []) :
    membersText ((key, value) :: rest) =
      key.before ++ (stringText key.content ++ (key.after ++ ':' ::
        (value.before ++ (value.content.text ++ (value.after ++ ',' :: membersText rest))))) := by
  cases rest with
  | nil => exact absurd rfl more
  | cons next rest => exact membersText_cons key value next rest

theorem itemsText_cons_of_ne_nil (item : Padded Tree) {items : List (Padded Tree)}
    (more : items ≠ []) :
    itemsText (item :: items) =
      item.before ++ (item.content.text ++ (item.after ++ ',' :: itemsText items)) := by
  cases items with
  | nil => exact absurd rfl more
  | cons next rest => exact itemsText_cons item next rest

/-- The text of the members of an object around the tree of one of them. -/
theorem exists_membersText_around (before after : List (Padded (List Char) × Padded Tree))
    (key : Padded (List Char)) (gap gap' : List Char) :
    ∃ front back, ∀ child : Tree,
      membersText (before ++ (key, ⟨gap, child, gap'⟩) :: after) = front ++ child.text ++ back := by
  induction before with
  | nil =>
      cases after with
      | nil =>
          refine ⟨key.before ++ stringText key.content ++ key.after ++ ':' :: gap, gap',
            fun child => ?_⟩
          rw [List.nil_append, membersText_singleton]
          simp
      | cons next rest =>
          refine ⟨key.before ++ stringText key.content ++ key.after ++ ':' :: gap,
            gap' ++ ',' :: membersText (next :: rest), fun child => ?_⟩
          rw [List.nil_append, membersText_cons]
          simp
  | cons member rest ih =>
      obtain ⟨first, value⟩ := member
      obtain ⟨front, back, same⟩ := ih
      refine ⟨first.before ++ stringText first.content ++ first.after ++ ':' :: value.before ++
        value.content.text ++ value.after ++ ',' :: front, back, fun child => ?_⟩
      rw [List.cons_append, membersText_cons_of_ne_nil _ _ (by simp), same]
      simp

/-- The text of the items of an array around the tree of one of them. -/
theorem exists_itemsText_around (before after : List (Padded Tree)) (gap gap' : List Char) :
    ∃ front back, ∀ child : Tree,
      itemsText (before ++ ⟨gap, child, gap'⟩ :: after) = front ++ child.text ++ back := by
  induction before with
  | nil =>
      cases after with
      | nil =>
          refine ⟨gap, gap', fun child => ?_⟩
          rw [List.nil_append, itemsText_singleton]
          simp
      | cons next rest =>
          refine ⟨gap, gap' ++ ',' :: itemsText (next :: rest), fun child => ?_⟩
          rw [List.nil_append, itemsText_cons]
          simp
  | cons item rest ih =>
      obtain ⟨front, back, same⟩ := ih
      refine ⟨item.before ++ item.content.text ++ item.after ++ ',' :: front, back,
        fun child => ?_⟩
      rw [List.cons_append, itemsText_cons_of_ne_nil _ (by simp), same]
      simp

theorem text_infix_itemsText {items : List (Padded Tree)} {item : Padded Tree}
    (member : item ∈ items) : item.content.text <:+: itemsText items := by
  obtain ⟨before, after, rfl⟩ := List.append_of_mem member
  obtain ⟨front, back, same⟩ := exists_itemsText_around before after item.before item.after
  exact ⟨front, back, (same item.content).symm⟩

theorem text_infix_membersText {members : List (Padded (List Char) × Padded Tree)}
    {member : Padded (List Char) × Padded Tree} (isMember : member ∈ members) :
    member.2.content.text <:+: membersText members := by
  obtain ⟨before, after, rfl⟩ := List.append_of_mem isMember
  obtain ⟨front, back, same⟩ :=
    exists_membersText_around before after member.1 member.2.before member.2.after
  exact ⟨front, back, (same member.2.content).symm⟩

/-- The text of an array has that of its items in it. -/
theorem Tree.text_infix_array {gap : List Char} {items : List (Padded Tree)} {item : Padded Tree}
    (member : item ∈ items) : item.content.text <:+: (Tree.array gap items).text := by
  refine (text_infix_itemsText member).trans ⟨'[' :: gap, [']'], ?_⟩
  rw [Tree.text]

/-- The text of an object has that of its members in it. -/
theorem Tree.text_infix_object {gap : List Char}
    {members : List (Padded (List Char) × Padded Tree)}
    {member : Padded (List Char) × Padded Tree} (isMember : member ∈ members) :
    member.2.content.text <:+: (Tree.object gap members).text := by
  refine (text_infix_membersText isMember).trans ⟨'{' :: gap, ['}'], ?_⟩
  rw [Tree.text]

def Padded.isPadded {α : Type} (padded : Padded α) : Bool :=
  padded.before.all isGap && padded.after.all isGap

theorem itemsWellFormed_iff {items : List (Padded Tree)} :
    itemsWellFormed items = true ↔
      ∀ item ∈ items, item.isPadded = true ∧ item.content.wellFormed = true := by
  induction items with
  | nil => simp [itemsWellFormed]
  | cons item rest ih =>
      rw [itemsWellFormed, Bool.and_eq_true, ih, List.forall_mem_cons]
      simp only [Padded.isPadded, Bool.and_eq_true, and_congr_left_iff]
      exact fun _ => ⟨fun ⟨⟨before, tree⟩, after⟩ => ⟨⟨before, after⟩, tree⟩,
        fun ⟨⟨before, after⟩, tree⟩ => ⟨⟨before, tree⟩, after⟩⟩

theorem membersWellFormed_iff {members : List (Padded (List Char) × Padded Tree)} :
    membersWellFormed members = true ↔
      ∀ member ∈ members, member.1.isPadded = true ∧ isStringBody member.1.content = true ∧
        member.2.isPadded = true ∧ member.2.content.wellFormed = true := by
  induction members with
  | nil => simp [membersWellFormed]
  | cons member rest ih =>
      rw [membersWellFormed, Bool.and_eq_true, ih, List.forall_mem_cons]
      simp only [Padded.isPadded, Bool.and_eq_true, and_congr_left_iff]
      exact fun _ =>
        ⟨fun ⟨⟨⟨⟨⟨keyBefore, body⟩, keyAfter⟩, before⟩, tree⟩, after⟩ =>
          ⟨⟨keyBefore, keyAfter⟩, body, ⟨before, after⟩, tree⟩,
        fun ⟨⟨keyBefore, keyAfter⟩, body, ⟨before, after⟩, tree⟩ =>
          ⟨⟨⟨⟨⟨keyBefore, body⟩, keyAfter⟩, before⟩, tree⟩, after⟩⟩

/-- In an object a well-formed tree can stand in the place of another. -/
theorem wellFormed_object_middle {before after : List (Padded (List Char) × Padded Tree)}
    {key : Padded (List Char)} {gap gap₁ gap₂ : List Char} {child : Tree}
    (wellFormed : (Tree.object gap (before ++ (key, ⟨gap₁, child, gap₂⟩) :: after)).wellFormed = true) :
    child.wellFormed = true ∧ ∀ child' : Tree, child'.wellFormed = true →
      (Tree.object gap (before ++ (key, ⟨gap₁, child', gap₂⟩) :: after)).wellFormed = true := by
  simp only [Tree.wellFormed, Bool.and_eq_true, membersWellFormed_iff, List.forall_mem_append,
    List.forall_mem_cons, Padded.isPadded] at wellFormed ⊢
  obtain ⟨⟨isGap, isEmpty⟩, first, ⟨isPadded, isBody, isPadded', ofChild⟩, others⟩ := wellFormed
  refine ⟨ofChild, fun child' ofChild' =>
    ⟨⟨isGap, ?_⟩, first, ⟨isPadded, isBody, isPadded', ofChild'⟩, others⟩⟩
  simpa using isEmpty

theorem wellFormed_array_middle {before after : List (Padded Tree)} {gap gap₁ gap₂ : List Char}
    {child : Tree}
    (wellFormed : (Tree.array gap (before ++ ⟨gap₁, child, gap₂⟩ :: after)).wellFormed = true) :
    child.wellFormed = true ∧ ∀ child' : Tree, child'.wellFormed = true →
      (Tree.array gap (before ++ ⟨gap₁, child', gap₂⟩ :: after)).wellFormed = true := by
  simp only [Tree.wellFormed, Bool.and_eq_true, itemsWellFormed_iff, List.forall_mem_append,
    List.forall_mem_cons, Padded.isPadded] at wellFormed ⊢
  obtain ⟨⟨isGap, isEmpty⟩, first, ⟨isPadded, ofChild⟩, others⟩ := wellFormed
  refine ⟨ofChild, fun child' ofChild' => ⟨⟨isGap, ?_⟩, first, ⟨isPadded, ofChild'⟩, others⟩⟩
  simpa using isEmpty

/-! ## First characters -/

def startsValue (c : Char) : Bool :=
  !isGap c && c != ',' && c != ']' && c != '}'

theorem startsValue_of_isDigit {c : Char} (digit : c.isDigit) : startsValue c = true := by
  have gap : isGap c = false := by
    rw [Bool.eq_false_iff]
    intro gap
    simp only [isGap, Bool.or_eq_true, beq_iff_eq] at gap
    rcases gap with ((rfl | rfl) | rfl) | rfl <;> cases digit
  have others : c ≠ ',' ∧ c ≠ ']' ∧ c ≠ '}' := by
    refine ⟨?_, ?_, ?_⟩ <;> (rintro rfl; cases digit)
  simp [startsValue, gap, others]

/-- A well-formed numeral has a digit in front. -/
theorem Numeral.whole_start {numeral : Numeral} (wellFormed : numeral.wellFormed) :
    ∃ c rest, numeral.whole = c :: rest ∧ c.isDigit = true := by
  rw [Numeral.wellFormed, Bool.and_eq_true, Bool.and_eq_true] at wellFormed
  obtain ⟨⟨isWhole, -⟩, -⟩ := wellFormed
  cases whole : numeral.whole with
  | nil =>
      rw [whole] at isWhole
      cases isWhole
  | cons c rest =>
      refine ⟨c, rest, rfl, ?_⟩
      rw [whole] at isWhole
      rcases isWhole_iff.mp isWhole with zero | ⟨-, decimal, -⟩
      · rw [(List.cons.inj zero).1]
        decide
      · rw [List.all_cons, Bool.and_eq_true] at decimal
        exact decimal.1

/-- The text of a well-formed tree starts like a value. -/
theorem Tree.text_start {tree : Tree} (wellFormed : tree.wellFormed) :
    ∃ c text, tree.text = c :: text ∧ startsValue c = true := by
  cases tree with
  | null => exact ⟨_, _, rfl, by decide⟩
  | bool value => cases value <;> exact ⟨_, _, rfl, by decide⟩
  | string body => exact ⟨_, _, rfl, by decide⟩
  | array gap items => exact ⟨_, _, rfl, by decide⟩
  | object gap members => exact ⟨_, _, rfl, by decide⟩
  | number numeral =>
      obtain ⟨c, rest, whole, digit⟩ := Numeral.whole_start wellFormed
      rw [Tree.text, Numeral.text, whole]
      cases numeral.negative with
      | true => exact ⟨'-', _, rfl, by decide⟩
      | false => exact ⟨c, _, rfl, startsValue_of_isDigit digit⟩

end OptionSchema.Json
