import OptionSchema.Proofs.Json.Address
import OptionSchema.Proofs.Json.Token

/-!
# Deleting blanks

`withoutBlanks` goes through a text character by character and leaves out the blanks that stand
neither in a string nor in a part that is kept. Of an array or object in any layout it leaves the
compact layout of what it leaves of the parts (`leavesTree_array`, `leavesTree_object`), and of a
value its compact text (`leavesTree_value`).
-/

namespace OptionSchema.Json

/-! ## Marked texts -/

/-- A text, each character with whether it stands in a part that is kept. -/
abbrev Marked :=
  List (Char × Bool)

namespace Marked

def loose (text : List Char) : Marked :=
  text.map (·, false)

def kept (text : List Char) : Marked :=
  text.map (·, true)

def text (marked : Marked) : List Char :=
  marked.map Prod.fst

end Marked

mutual

/-- The text of a tree, with the parts at some places marked as kept. -/
def Tree.marked (kept : Places) (tree : Tree) : Marked :=
  if kept [] then Marked.kept tree.text
  else
    match tree with
    | .array gap items =>
        Marked.loose ('[' :: gap) ++ itemsMarked kept 0 items ++ Marked.loose [']']
    | .object gap members =>
        Marked.loose ('{' :: gap) ++ membersMarked kept members ++ Marked.loose ['}']
    | tree => Marked.loose tree.text

def itemsMarked (kept : Places) (index : Nat) : List (Padded Tree) → Marked
  | [] => []
  | ⟨before, tree, after⟩ :: rest =>
      Marked.loose before ++ tree.marked (kept.under (.item index)) ++ Marked.loose after ++
        match rest with
        | [] => []
        | _ => Marked.loose [','] ++ itemsMarked kept (index + 1) rest

def membersMarked (kept : Places) : List (Padded (List Char) × Padded Tree) → Marked
  | [] => []
  | (key, ⟨before, tree, after⟩) :: rest =>
      Marked.loose key.before ++ Marked.loose (stringText key.content) ++ Marked.loose key.after ++
        Marked.loose (':' :: before) ++ tree.marked (kept.under (.member key.name?)) ++
        Marked.loose after ++
        match rest with
        | [] => []
        | _ => Marked.loose [','] ++ membersMarked kept rest

end

/-- Where a character stands: in a string or not, and there behind a backslash or not. -/
inductive Spot where
  | outside
  | inside
  | escaped
  deriving DecidableEq

def Spot.next (spot : Spot) (c : Char) : Spot :=
  match spot with
  | .outside => if c = '"' then .inside else .outside
  | .inside => if c = '"' then .outside else if c = '\\' then .escaped else .inside
  | .escaped => .inside

/-- A text without the blanks outside strings and kept parts. Nothing in a kept part opens or closes
a string. -/
def withoutBlanks (spot : Spot) : Marked → List Char
  | [] => []
  | (c, true) :: rest => c :: withoutBlanks spot rest
  | (c, false) :: rest =>
      if spot = .outside ∧ isGap c then withoutBlanks spot rest
      else c :: withoutBlanks (spot.next c) rest

variable {kept : Places} {layout : Layout} {depth depth' : Nat} {text text' : List Char}
  {marked marked' : Marked}

/-! ## The characters of marked texts -/

@[simp] theorem Marked.text_loose (text : List Char) : (Marked.loose text).text = text := by
  simp [Marked.loose, Marked.text, Function.comp_def]

@[simp] theorem Marked.text_kept (text : List Char) : (Marked.kept text).text = text := by
  simp [Marked.kept, Marked.text, Function.comp_def]

@[simp] theorem Marked.text_append (first second : Marked) :
    Marked.text (first ++ second) = first.text ++ second.text :=
  List.map_append

theorem itemsMarked_singleton (index : Nat) (item : Padded Tree) :
    itemsMarked kept index [item] = Marked.loose item.before ++
      (item.content.marked (kept.under (.item index)) ++ Marked.loose item.after) := by
  simp [itemsMarked]

theorem itemsMarked_cons (index : Nat) (item : Padded Tree) {items : List (Padded Tree)}
    (more : items ≠ []) :
    itemsMarked kept index (item :: items) = Marked.loose item.before ++
      (item.content.marked (kept.under (.item index)) ++ (Marked.loose item.after ++
        (Marked.loose [','] ++ itemsMarked kept (index + 1) items))) := by
  cases items with
  | nil => exact absurd rfl more
  | cons next rest =>
      rw [itemsMarked.eq_def]
      simp

theorem membersMarked_singleton (key : Padded (List Char)) (value : Padded Tree) :
    membersMarked kept [(key, value)] =
      Marked.loose key.before ++ (Marked.loose (stringText key.content) ++
        (Marked.loose key.after ++ (Marked.loose (':' :: value.before) ++
          (value.content.marked (kept.under (.member key.name?)) ++
            Marked.loose value.after)))) := by
  simp [membersMarked]

theorem membersMarked_cons (key : Padded (List Char)) (value : Padded Tree)
    {rest : List (Padded (List Char) × Padded Tree)} (more : rest ≠ []) :
    membersMarked kept ((key, value) :: rest) =
      Marked.loose key.before ++ (Marked.loose (stringText key.content) ++
        (Marked.loose key.after ++ (Marked.loose (':' :: value.before) ++
          (value.content.marked (kept.under (.member key.name?)) ++ (Marked.loose value.after ++
            (Marked.loose [','] ++ membersMarked kept rest)))))) := by
  cases rest with
  | nil => exact absurd rfl more
  | cons next rest =>
      rw [membersMarked.eq_def]
      simp

theorem text_itemsMarked {items : List (Padded Tree)} (index : Nat)
    (each : ∀ item ∈ items, ∀ kept, (item.content.marked kept).text = item.content.text) :
    (itemsMarked kept index items).text = itemsText items := by
  induction items generalizing index with
  | nil => rfl
  | cons item rest ih =>
      obtain ⟨first, others⟩ := List.forall_mem_cons.mp each
      cases rest with
      | nil => simp [itemsMarked, itemsText, first]
      | cons next rest =>
          rw [itemsMarked_cons _ _ (by simp), itemsText_cons, ← ih (index + 1) others]
          simp [first]

theorem text_membersMarked {members : List (Padded (List Char) × Padded Tree)}
    (each : ∀ member ∈ members, ∀ kept,
      (member.2.content.marked kept).text = member.2.content.text) :
    (membersMarked kept members).text = membersText members := by
  induction members with
  | nil => rfl
  | cons member rest ih =>
      obtain ⟨first, others⟩ := List.forall_mem_cons.mp each
      cases rest with
      | nil => simp [membersMarked, membersText, first]
      | cons next rest =>
          rw [membersMarked_cons _ _ (by simp), membersText_cons, ← ih others]
          simp [first]

/-- Marking parts changes no character. -/
theorem Tree.text_marked (tree : Tree) (kept : Places) : (tree.marked kept).text = tree.text := by
  induction tree using Tree.induction generalizing kept with
  | array gap items ih =>
      unfold Tree.marked
      split
      · exact Marked.text_kept _
      · simp [text_itemsMarked 0 ih, Tree.text]
  | object gap members ih =>
      unfold Tree.marked
      split
      · exact Marked.text_kept _
      · simp [text_membersMarked ih, Tree.text]
  | null | bool | number | string =>
      unfold Tree.marked
      split
      · exact Marked.text_kept _
      · exact Marked.text_loose _

/-! ## What is left -/

/-- A text is what is left of a marked one outside strings, whatever follows. -/
def Leaves (marked : Marked) (text : List Char) : Prop :=
  ∀ rest, withoutBlanks .outside (marked ++ rest) = text ++ withoutBlanks .outside rest

theorem Leaves.eq (leaves : Leaves marked text) : withoutBlanks .outside marked = text := by
  have whole := leaves []
  rwa [List.append_nil, withoutBlanks, List.append_nil] at whole

theorem leaves_nil : Leaves [] [] :=
  fun _ => rfl

theorem Leaves.append (leaves : Leaves marked text) (leaves' : Leaves marked' text') :
    Leaves (marked ++ marked') (text ++ text') := by
  intro rest
  rw [List.append_assoc, leaves, leaves', List.append_assoc]

theorem leaves_kept (text : List Char) : Leaves (Marked.kept text) text := by
  intro rest
  induction text with
  | nil => rfl
  | cons c text ih => exact congrArg (c :: ·) ih

/-- Blanks between tokens vanish. -/
theorem leaves_gap (blank : text.all isGap = true) : Leaves (Marked.loose text) [] := by
  intro rest
  induction text with
  | nil => rfl
  | cons c text ih =>
      rw [List.all_cons, Bool.and_eq_true] at blank
      exact (if_pos ⟨rfl, blank.1⟩).trans (ih blank.2)

def isSolid (c : Char) : Bool :=
  !isGap c && c != '"'

/-- Punctuation, letters and numerals stay. -/
theorem leaves_solid (solid : text.all isSolid = true) : Leaves (Marked.loose text) text := by
  intro rest
  induction text with
  | nil => rfl
  | cons c text ih =>
      simp only [List.all_cons, Bool.and_eq_true, isSolid, Bool.not_eq_true', bne_iff_ne] at solid
      obtain ⟨⟨notGap, notQuote⟩, others⟩ := solid
      have stays : ¬ (Spot.outside = .outside ∧ isGap c = true) := by simp [notGap]
      have next : Spot.outside.next c = .outside := if_neg notQuote
      change (if _ then _ else _) = _
      rw [if_neg stays, next]
      exact congrArg (c :: ·) (ih others)

theorem withoutBlanks_inside_cons (c : Char) (rest : Marked) :
    withoutBlanks .inside ((c, false) :: rest) = c :: withoutBlanks (Spot.inside.next c) rest :=
  if_neg (by simp)

theorem withoutBlanks_escape (c : Char) (rest : Marked) :
    withoutBlanks .inside (('\\', false) :: (c, false) :: rest) =
      '\\' :: c :: withoutBlanks .inside rest :=
  rfl

/-- The body of a string stays up to the quote that closes it. -/
theorem withoutBlanks_body {body : List Char} (isBody : isStringBody body = true) (rest : Marked) :
    withoutBlanks .inside (Marked.loose body ++ ('"', false) :: rest) =
      body ++ '"' :: withoutBlanks .outside rest := by
  fun_induction isStringBody body with
  | case1 => rfl
  | case2 => cases isBody
  | case3 body ih =>
      rw [Bool.and_eq_true] at isBody
      change withoutBlanks .inside (('\\', false) :: ('u', false) :: (Marked.loose body ++ _)) = _
      rw [withoutBlanks_escape, ih isBody.2]
      rfl
  | case4 c body notUnit ih =>
      rw [Bool.and_eq_true] at isBody
      change withoutBlanks .inside (('\\', false) :: (c, false) :: (Marked.loose body ++ _)) = _
      rw [withoutBlanks_escape, ih isBody.2]
      rfl
  | case5 c body notQuote _ _ ih =>
      simp only [Bool.and_eq_true, bne_iff_ne] at isBody
      have next : Spot.inside.next c = .inside :=
        (if_neg notQuote).trans (if_neg isBody.1.1)
      change withoutBlanks .inside ((c, false) :: (Marked.loose body ++ _)) = _
      rw [withoutBlanks_inside_cons, next, ih isBody.2]
      rfl

theorem leaves_stringText {body : List Char} (isBody : isStringBody body = true) :
    Leaves (Marked.loose (stringText body)) (stringText body) := by
  intro rest
  have split : Marked.loose (stringText body) ++ rest =
      ('"', false) :: (Marked.loose body ++ ('"', false) :: rest) := by
    simp [Marked.loose, stringText]
  have opened (marked : Marked) : withoutBlanks .outside (('"', false) :: marked) =
      '"' :: withoutBlanks .inside marked :=
    if_neg (by decide)
  rw [split, opened, withoutBlanks_body isBody]
  simp [stringText]

/-! ## Layouts without their blanks -/

def LeavesTree (kept : Places) (tree tree' : Tree) : Prop :=
  Leaves (tree.marked kept) tree'.text

theorem leavesTree_of_kept {tree : Tree} (isKept : kept [] = true) : LeavesTree kept tree tree := by
  rw [LeavesTree, Tree.marked.eq_def, if_pos isKept]
  exact leaves_kept tree.text

/-- An atom is kept as a whole or left as a whole. -/
theorem leavesTree_of_isAtom {tree : Tree} (atom : tree.isAtom = true)
    (leaves : Leaves (Marked.loose tree.text) tree.text) : LeavesTree kept tree tree := by
  unfold LeavesTree Tree.marked
  split
  · exact leaves_kept tree.text
  · cases tree with
    | array => cases atom
    | object => cases atom
    | _ => exact leaves

theorem leavesTree_null : LeavesTree kept .null .null :=
  leavesTree_of_isAtom rfl (leaves_solid (by decide))

theorem leavesTree_bool (value : Bool) : LeavesTree kept (.bool value) (.bool value) :=
  leavesTree_of_isAtom rfl (leaves_solid (by cases value <;> decide))

theorem leavesTree_string (text : String) :
    LeavesTree kept (Layout.string text) (Layout.string text) :=
  leavesTree_of_isAtom rfl (leaves_stringText (isStringBody_escape text.toList))

theorem leaves_lineBreak (layout : Layout) (depth : Nat) :
    Leaves (Marked.loose (layout.lineBreak depth)) [] :=
  leaves_gap (all_isGap_lineBreak layout depth)

theorem leaves_comma : Leaves (Marked.loose [',']) [','] :=
  leaves_solid (by decide)

/-- The items of an array in any layout leave those of the compact one. -/
theorem leaves_items {α : Type} {tree tree' : α → Tree} {parts : List α} (index : Nat)
    (each : ∀ (i : Nat) (part : α), parts[i]? = some part →
      LeavesTree (kept.under (.item (index + i))) (tree part) (tree' part)) :
    Leaves (itemsMarked kept index (layout.padItems depth (parts.map tree)))
      (itemsText (Layout.compact.padItems depth' (parts.map tree'))) := by
  induction parts generalizing index with
  | nil => exact leaves_nil
  | cons part rest ih =>
      have first : LeavesTree (kept.under (.item index)) (tree part) (tree' part) := each 0 part rfl
      have others := ih (index + 1) fun i part isPart => by
        rw [Nat.add_right_comm]
        exact each (i + 1) part isPart
      have opened := leaves_lineBreak layout (depth + 1)
      cases rest with
      | nil =>
          change Leaves (itemsMarked kept index [⟨_, tree part, _⟩])
            (itemsText [⟨[], tree' part, []⟩])
          rw [itemsMarked_singleton, itemsText_singleton]
          exact opened.append (first.append (leaves_lineBreak layout depth))
      | cons next rest =>
          change Leaves (itemsMarked kept index (⟨_, tree part, []⟩ :: layout.padItems depth _))
            (itemsText (⟨[], tree' part, []⟩ :: Layout.compact.padItems depth' _))
          rw [itemsMarked_cons _ _ (padItems_ne_nil (by simp)),
            itemsText_cons_of_ne_nil _ (padItems_ne_nil (by simp))]
          exact opened.append (first.append (leaves_nil.append (leaves_comma.append others)))

/-- An array in any layout leaves the compact array of what its items leave. -/
theorem leavesTree_array {α : Type} {tree tree' : α → Tree} {parts : List α}
    (notKept : kept [] = false)
    (each : ∀ (i : Nat) (part : α), parts[i]? = some part →
      LeavesTree (kept.under (.item i)) (tree part) (tree' part)) :
    LeavesTree kept (layout.array depth (parts.map tree))
      (Layout.compact.array depth' (parts.map tree')) := by
  have items : Leaves (itemsMarked kept 0 (layout.padItems depth (parts.map tree)))
      (itemsText (Layout.compact.padItems depth' (parts.map tree'))) := by
    refine leaves_items 0 fun i part isPart => ?_
    rw [Nat.zero_add]
    exact each i part isPart
  have opened : Leaves (Marked.loose ['[']) ['['] := leaves_solid (by decide)
  have closed : Leaves (Marked.loose [']']) [']'] := leaves_solid (by decide)
  rw [LeavesTree, Tree.marked.eq_def, if_neg (by simp [notKept])]
  exact (opened.append items).append closed

/-- The members of an object in any layout leave those of the compact one. -/
theorem leaves_members {members members' : List (String × Tree)}
    (each : List.Forall₂ (fun member member' => member.1 = member'.1 ∧
      LeavesTree (kept.under (.member (some member.1))) member.2 member'.2) members members') :
    Leaves (membersMarked kept (layout.padMembers depth members))
      (membersText (Layout.compact.padMembers depth' members')) := by
  induction each with
  | nil => exact leaves_nil
  | @cons member member' rest rest' first others ih =>
      obtain ⟨name, tree⟩ := member
      obtain ⟨_, tree'⟩ := member'
      obtain ⟨rfl, first⟩ := first
      have key := leaves_stringText (isStringBody_escape name.toList)
      have mark : Leaves (Marked.loose [':']) [':'] := leaves_solid (by decide)
      have colon : Leaves (Marked.loose (':' :: layout.afterColon)) [':'] :=
        mark.append (leaves_gap (all_isGap_afterColon layout))
      have opened := leaves_lineBreak layout (depth + 1)
      cases others with
      | nil =>
          change Leaves
            (membersMarked kept [(⟨_, escape name.toList, []⟩, ⟨_, tree, layout.lineBreak depth⟩)])
            (membersText [(⟨[], escape name.toList, []⟩, ⟨[], tree', []⟩)])
          rw [membersMarked_singleton, membersText_singleton, Padded.name?_escape]
          exact opened.append (key.append (leaves_nil.append (colon.append
            (first.append (leaves_lineBreak layout depth)))))
      | @cons next next' _ _ _ _ =>
          change Leaves
            (membersMarked kept ((⟨_, escape name.toList, []⟩, ⟨_, tree, []⟩) ::
              layout.padMembers depth _))
            (membersText ((⟨[], escape name.toList, []⟩, ⟨[], tree', []⟩) ::
              Layout.compact.padMembers depth' _))
          rw [membersMarked_cons _ _ (padMembers_ne_nil (by simp)),
            membersText_cons_of_ne_nil _ _ (padMembers_ne_nil (by simp)), Padded.name?_escape]
          exact opened.append (key.append (leaves_nil.append (colon.append
            (first.append (leaves_nil.append (leaves_comma.append ih))))))

/-- An object in any layout leaves the compact object of what its members leave. -/
theorem leavesTree_object {members members' : List (String × Tree)} (notKept : kept [] = false)
    (each : List.Forall₂ (fun member member' => member.1 = member'.1 ∧
      LeavesTree (kept.under (.member (some member.1))) member.2 member'.2) members members') :
    LeavesTree kept (layout.object depth members) (Layout.compact.object depth' members') := by
  have opened : Leaves (Marked.loose ['{']) ['{'] := leaves_solid (by decide)
  have closed : Leaves (Marked.loose ['}']) ['}'] := leaves_solid (by decide)
  rw [LeavesTree, Tree.marked.eq_def, if_neg (by simp [notKept])]
  exact (opened.append (leaves_members each)).append closed

/-! ## Values without their blanks -/

theorem isSolid_of_isDigit {c : Char} (digit : c.isDigit = true) : isSolid c = true := by
  have notGap : isGap c = false := by
    have starts := startsValue_of_isDigit digit
    simp only [startsValue, Bool.and_eq_true, Bool.not_eq_true'] at starts
    exact starts.1.1.1
  have notQuote : c ≠ '"' := by
    rintro rfl
    cases digit
  simp [isSolid, notGap, notQuote]

theorem all_isSolid_of_all_isDigit (decimal : text.all Char.isDigit = true) :
    text.all isSolid = true := by
  rw [List.all_eq_true] at decimal ⊢
  exact fun c member => isSolid_of_isDigit (decimal c member)

theorem all_isSolid_exponent {exponent : Exponent} (wellFormed : exponent.wellFormed = true) :
    exponent.text.all isSolid = true := by
  obtain ⟨mark, sign, digits⟩ := exponent
  simp only [Exponent.wellFormed, Bool.and_eq_true, Bool.or_eq_true, beq_iff_eq] at wellFormed
  obtain ⟨⟨⟨isMark, isSign⟩, -⟩, decimal⟩ := wellFormed
  have solidMark : isSolid mark = true := by
    rcases isMark with rfl | rfl <;> decide
  have solidSign : sign.toList.all isSolid = true := by
    cases sign with
    | none => rfl
    | some c =>
        simp only [Option.all_some, Bool.or_eq_true, beq_iff_eq] at isSign
        rcases isSign with rfl | rfl <;> decide
  simp [Exponent.text, solidMark, solidSign, all_isSolid_of_all_isDigit decimal]

theorem all_isSolid_numeral {numeral : Numeral} (wellFormed : numeral.wellFormed = true) :
    numeral.text.all isSolid = true := by
  obtain ⟨negative, whole, fraction, exponent⟩ := numeral
  simp only [Numeral.wellFormed, Bool.and_eq_true] at wellFormed
  obtain ⟨⟨isWhole, decimal⟩, isExponent⟩ := wellFormed
  have solidSign : (if negative then ['-'] else []).all isSolid = true := by
    cases negative <;> decide
  have solidWhole : whole.all isSolid = true := by
    rcases isWhole_iff.mp isWhole with rfl | ⟨-, digits, -⟩
    · decide
    · exact all_isSolid_of_all_isDigit digits
  have solidFraction : (fractionText fraction).all isSolid = true := by
    unfold fractionText
    split
    · rfl
    · exact Bool.and_eq_true_iff.mpr ⟨by decide, all_isSolid_of_all_isDigit decimal⟩
  have solidExponent : (exponentText exponent).all isSolid = true := by
    cases exponent with
    | none => rfl
    | some exponent => exact all_isSolid_exponent isExponent
  simp only [Numeral.text_eq, Numeral.magnitudeText, List.all_append, solidSign, solidWhole,
    solidFraction, solidExponent, Bool.and_self]

theorem leavesTree_number (number : Number) : LeavesTree kept number.tree number.tree := by
  have ofNumeral (numeral : Numeral) (wellFormed : numeral.wellFormed = true) :
      LeavesTree kept (.number numeral) (.number numeral) :=
    leavesTree_of_isAtom rfl (leaves_solid (all_isSolid_numeral wellFormed))
  cases number with
  | integer value fits => exact ofNumeral _ (wellFormed_numeral (.integer value fits))
  | float value =>
      rw [Value.tree_float]
      split
      · exact ofNumeral _ (wellFormed_floatNumeral value)
      · exact leavesTree_null

/-- A value in any layout leaves its compact tree. -/
theorem leavesTree_value (value : Value) (layout : Layout) (depth depth' : Nat) :
    LeavesTree (fun _ => false) (value.tree layout depth) (value.tree .compact depth') := by
  induction value using Value.induction generalizing depth depth' with
  | step value ih =>
      cases value with
      | null => exact leavesTree_null
      | bool value => exact leavesTree_bool value
      | number value => exact leavesTree_number value
      | string value => exact leavesTree_string value
      | array items =>
          rw [Value.tree, Value.tree, Value.itemTrees_eq_map, Value.itemTrees_eq_map]
          exact leavesTree_array rfl fun i item isItem => ih item (List.mem_of_getElem? isItem) _ _
      | object members =>
          rw [Value.tree, Value.tree, Value.memberTrees_eq_map, Value.memberTrees_eq_map]
          refine leavesTree_object rfl ?_
          rw [List.forall₂_map_left_iff, List.forall₂_map_right_iff, List.forall₂_same]
          exact fun member isMember => ⟨rfl, ih member.2 (List.mem_map_of_mem isMember) _ _⟩

end OptionSchema.Json
