import OptionSchema.Proofs.Comment.Division

/-!
# The blocks of a description

What every line keeps holds of all blocks of a description: their words are those of the lines
(`Grown.words_eq`), their lines of code are those of the fenced blocks (`Grown.code_eq`), a block
stays where it stands (`Grown.exists_extends`), and a break stands between two other blocks
(`blocksOf_gap`).
-/

namespace OptionSchema.Comment

variable {line : List Char} {lines : List (List Char)} {inside : Bool}
  {blocks base more next last : List Block} {block : Block}

/-! ## Words and code -/

def Block.words : Block → List (List Char)
  | .paragraph text => Text.words text
  | .verbatim lines => lines.flatMap Text.words
  | .gap => []

def Block.code : Block → List (List Char)
  | .verbatim lines => lines
  | .paragraph _ | .gap => []

theorem Block.paragraph_ne_gap (text : List Char) : Block.paragraph text ≠ .gap := by
  rintro ⟨⟩

theorem Block.verbatim_ne_gap (lines : List (List Char)) : Block.verbatim lines ≠ .gap := by
  rintro ⟨⟩

theorem Grows.words_eq (grows : Grows line inside blocks next) :
    next.flatMap Block.words = blocks.flatMap Block.words ++ Text.words line := by
  have nothing (blank : bare line = []) : Text.words line = [] := bare_eq_nil_iff.mp blank
  cases grows with
  | code base code => simp [Block.words, words_sanitize]
  | opening => simp [Block.words, words_bare]
  | blank blank => simp [nothing blank]
  | gap blank => simp [Block.words, nothing blank]
  | start => simp [Block.words, words_bare]
  | @goesOn base text =>
      have joined : Text.words (text ++ ' ' :: bare line) = Text.words text ++ Text.words line := by
        rw [Text.words_append_cons (by decide), words_bare]
      simp [Block.words, joined]

/-- The words of the blocks are the words of the lines. -/
theorem Grown.words_eq (grown : Grown inside lines blocks last) :
    last.flatMap Block.words = blocks.flatMap Block.words ++ lines.flatMap Text.words := by
  induction grown with
  | nil => exact (List.append_nil _).symm
  | cons grows _ ih => rw [ih, grows.words_eq, List.append_assoc, List.flatMap_cons]

theorem Grows.code_eq (grows : Grows line inside blocks next) :
    next.flatMap Block.code = blocks.flatMap Block.code ++ fencedPart inside line := by
  cases grows with
  | code base code => simp [Block.code, fencedPart]
  | opening fence => simp [Block.code, fencedPart, fence]
  | blank blank => simp [fencedPart, not_isFenceLine_of_bare blank]
  | gap blank => simp [Block.code, fencedPart, not_isFenceLine_of_bare blank]
  | start prose => simp [Block.code, fencedPart, prose.noFence]
  | goesOn prose => simp [Block.code, fencedPart, prose.noFence]

/-- The code in the blocks is what is written for the fenced blocks among the lines. -/
theorem Grown.code_eq (grown : Grown inside lines blocks last) :
    last.flatMap Block.code = blocks.flatMap Block.code ++ fencedLines inside lines := by
  induction grown with
  | nil => exact (List.append_nil _).symm
  | cons grows _ ih => rw [ih, grows.code_eq, List.append_assoc, fencedLines]

/-- Blank lines alone make up no block. -/
theorem Grown.eq_nil_of_blank (grown : Grown false lines [] last)
    (blank : ∀ line ∈ lines, bare line = []) : last = [] := by
  induction lines with
  | nil =>
      cases grown
      rfl
  | cons line rest ih =>
      obtain ⟨first, blank⟩ := List.forall_mem_cons.mp blank
      cases grown with
      | @cons _ _ _ _ next _ grows others =>
          have none : next = [] := by
            generalize nothing : ([] : List Block) = blocks at grows
            cases grows with
            | opening fence => exact absurd first (bare_ne_nil_of_isFenceLine fence)
            | blank => rfl
            | gap => simp at nothing
            | start prose => exact absurd first prose.nonblank
            | goesOn prose => exact absurd first prose.nonblank
          rw [not_isFenceLine_of_bare first, none] at others
          exact ih others blank

/-! ## Blocks stay -/

/-- A block goes on: a paragraph with another text behind a space, a fenced block with more lines. -/
inductive Block.Extends : Block → Block → Prop where
  | self (block : Block) : Extends block block
  | paragraph (text more : List Char) : Extends (.paragraph text) (.paragraph (text ++ ' ' :: more))
  | verbatim (code more : List (List Char)) : Extends (.verbatim code) (.verbatim (code ++ more))

theorem Block.Extends.trans {first second third : Block} (extends₁ : Extends first second)
    (extends₂ : Extends second third) : Extends first third := by
  cases extends₁ with
  | self => exact extends₂
  | paragraph text more =>
      cases extends₂ with
      | self => exact .paragraph text more
      | paragraph _ others =>
          rw [List.append_assoc, List.cons_append]
          exact .paragraph text _
  | verbatim code more =>
      cases extends₂ with
      | self => exact .verbatim code more
      | verbatim _ others =>
          rw [List.append_assoc]
          exact .verbatim code _

/-- Where the last item of a list is replaced, an item of the list is the last one or stays. -/
theorem replace_last {α : Type} {init front rest : List α} {old item : α}
    (same : init ++ [old] = front ++ item :: rest) (new : α) :
    (item = old ∧ init ++ [new] = front ++ [new]) ∨ ∃ rest, init ++ [new] = front ++ item :: rest := by
  rcases List.eq_nil_or_concat' rest with rfl | ⟨others, last, rfl⟩
  · obtain ⟨rfl, single⟩ := List.append_inj' same rfl
    exact .inl ⟨(List.cons.inj single).1.symm, rfl⟩
  · rw [← List.cons_append, ← List.append_assoc] at same
    obtain ⟨rfl, -⟩ := List.append_inj' same rfl
    exact .inr ⟨others ++ [new], by rw [List.append_assoc, List.cons_append]⟩

theorem Grows.exists_extends (grows : Grows line inside blocks next)
    (stands : blocks = base ++ block :: more) :
    ∃ block' more', next = base ++ block' :: more' ∧ block.Extends block' := by
  have behind (new : Block) : ∃ block' more', base ++ block :: more ++ [new] =
      base ++ block' :: more' ∧ block.Extends block' :=
    ⟨block, more ++ [new], by rw [List.append_assoc, List.cons_append], .self block⟩
  cases grows with
  | code init code =>
      rcases replace_last stands (.verbatim (code ++ [sanitize line])) with ⟨rfl, same⟩ | ⟨rest, same⟩
      · exact ⟨_, [], same, .verbatim code _⟩
      · exact ⟨block, rest, same, .self block⟩
  | opening => exact stands ▸ behind _
  | blank => exact ⟨block, more, stands, .self block⟩
  | gap => exact stands ▸ behind _
  | start => exact stands ▸ behind _
  | @goesOn init text =>
      rcases replace_last stands (.paragraph (text ++ ' ' :: bare line)) with
        ⟨rfl, same⟩ | ⟨rest, same⟩
      · exact ⟨_, [], same, .paragraph text _⟩
      · exact ⟨block, rest, same, .self block⟩

/-- A block stays where it stands, and may go on. -/
theorem Grown.exists_extends (grown : Grown inside lines blocks last)
    (stands : blocks = base ++ block :: more) :
    ∃ block' more', last = base ++ block' :: more' ∧ block.Extends block' := by
  induction grown generalizing block more with
  | nil => exact ⟨block, more, stands, .self block⟩
  | cons grows _ ih =>
      obtain ⟨second, others, stands', extends₁⟩ := grows.exists_extends stands
      obtain ⟨third, others', stands'', extends₂⟩ := ih stands'
      exact ⟨third, others', stands'', extends₁.trans extends₂⟩

/-- Breaks at the end are not in front of a block. -/
theorem rdropWhile_gap (apart : block ≠ .gap) (base more : List Block) :
    (base ++ block :: more).rdropWhile (· == .gap) =
      base ++ block :: more.rdropWhile (· == .gap) := by
  induction more using List.reverseRecOn with
  | nil => rw [List.rdropWhile_concat_neg _ _ _ (by simp [apart]), List.rdropWhile_nil]
  | append_singleton more last ih =>
      rw [← List.cons_append, ← List.append_assoc]
      by_cases isGap : last = .gap
      · subst isGap
        rw [List.rdropWhile_concat_pos _ _ _ rfl, List.rdropWhile_concat_pos _ _ _ rfl, ih]
      · have other : ¬ (last == Block.gap) = true := by simp [isGap]
        rw [List.rdropWhile_concat_neg (· == .gap) _ last other,
          List.rdropWhile_concat_neg (· == .gap) _ last other, List.append_assoc,
          List.cons_append]

theorem flatMap_rdropWhile_gap {α : Type} {f : Block → List α} (nothing : f .gap = [])
    (blocks : List Block) : (blocks.rdropWhile (· == .gap)).flatMap f = blocks.flatMap f := by
  induction blocks using List.reverseRecOn with
  | nil => rfl
  | append_singleton blocks last ih =>
      by_cases isGap : last = .gap
      · subst isGap
        rw [List.rdropWhile_concat_pos _ _ _ rfl, ih, List.flatMap_append, List.flatMap_singleton,
          nothing, List.append_nil]
      · rw [List.rdropWhile_concat_neg _ _ _ (by simp [isGap])]

theorem flatMap_words_blocksOf (description : List Char) :
    (blocksOf description).flatMap Block.words = Text.words description := by
  obtain ⟨blocks, grown, same⟩ := exists_grown description
  rw [same, flatMap_rdropWhile_gap rfl, grown.words_eq, Text.flatMap_words_lines]
  rfl

theorem flatMap_code_blocksOf (description : List Char) :
    (blocksOf description).flatMap Block.code = fencedLines false (Text.lines description) := by
  obtain ⟨blocks, grown, same⟩ := exists_grown description
  rw [same, flatMap_rdropWhile_gap rfl, grown.code_eq]
  rfl

/-- A description without words has no blocks. -/
theorem blocksOf_of_blank {description : List Char} (none : Text.words description = []) :
    blocksOf description = [] := by
  obtain ⟨blocks, grown, same⟩ := exists_grown description
  rw [← Text.flatMap_words_lines, List.flatMap_eq_nil_iff] at none
  have nothing : blocks = [] := grown.eq_nil_of_blank fun line isLine =>
    bare_eq_nil_iff.mpr (none line isLine)
  rw [same, nothing, List.rdropWhile_nil]

/-! ## Where a line is put -/

theorem Grows.eq_of_isFenceLine (grows : Grows line false blocks next)
    (fence : isFenceLine line = true) : next = blocks ++ [.verbatim [bare line]] := by
  have noProse (prose : IsProse line) : False := by
    rw [prose.noFence] at fence
    cases fence
  have visible := bare_ne_nil_of_isFenceLine fence
  cases grows with
  | opening => rfl
  | blank blank => exact absurd blank visible
  | gap blank => exact absurd blank visible
  | start prose => exact (noProse prose).elim
  | goesOn prose => exact (noProse prose).elim

theorem Grows.eq_of_isItemLine (grows : Grows line false blocks next)
    (item : isItemLine line = true) : next = blocks ++ [.paragraph (bare line)] := by
  obtain ⟨nonblank, noFence⟩ := bare_of_isItemLine item
  cases grows with
  | opening fence =>
      rw [noFence] at fence
      cases fence
  | blank blank => exact absurd blank nonblank
  | gap blank => exact absurd blank nonblank
  | start => rfl
  | goesOn _ noItem =>
      rw [item] at noItem
      cases noItem

/-- The lines of a fenced block are put into it one by one; only the last one can close it. -/
theorem Grown.eq_of_code {code shown : List (List Char)} (grown : Grown true code blocks last)
    (isOpen : blocks = base ++ [.verbatim shown])
    (noFence : ∀ line ∈ code.dropLast, isFenceLine line = false) :
    last = base ++ [.verbatim (shown ++ code.map sanitize)] := by
  induction code generalizing blocks shown with
  | nil =>
      cases grown
      rw [isOpen, List.map_nil, List.append_nil]
  | cons line rest ih =>
      cases grown with
      | @cons _ _ _ _ next _ grows others =>
          have goesOn : next = base ++ [.verbatim (shown ++ [sanitize line])] := by
            cases grows with
            | code init lines =>
                obtain ⟨rfl, single⟩ := List.append_inj' isOpen rfl
                obtain ⟨⟩ := (List.cons.inj single).1
                rfl
          cases rest with
          | nil =>
              cases others
              rw [goesOn]
              rfl
          | cons second rest =>
              rw [List.dropLast_cons_cons, List.forall_mem_cons] at noFence
              rw [noFence.1] at others
              rw [ih others goesOn noFence.2, List.append_assoc]
              rfl

/-- A block that is no break stays where it stands to the end. -/
theorem Grown.exists_blocksOf {description : List Char} (grown : Grown inside lines blocks last)
    (same : blocksOf description = last.rdropWhile (· == .gap))
    (stands : blocks = base ++ block :: more) (apart : block ≠ .gap) :
    ∃ block' more', blocksOf description = base ++ block' :: more' ∧ block.Extends block' := by
  obtain ⟨block', more', stands', extended⟩ := grown.exists_extends stands
  have apart' : block' ≠ .gap := by
    rintro rfl
    cases extended
    exact apart rfl
  exact ⟨block', _, by rw [same, stands', rdropWhile_gap apart'], extended⟩

/-- Reading a description up to a line, that line, and the lines behind it. -/
theorem exists_grows_at {description : List Char} {before after : List (List Char)}
    (stands : Text.lines description = before ++ line :: after) (outside : fenceOpen before = false) :
    ∃ blocks next last, blocks.flatMap Block.words = before.flatMap Text.words ∧
      Grows line false blocks next ∧ Grown (isFenceLine line) after next last ∧
      blocksOf description = last.rdropWhile (· == .gap) := by
  obtain ⟨last, grown, same⟩ := exists_grown description
  rw [stands] at grown
  obtain ⟨blocks, first, second⟩ := grown.exists_of_append
  rw [outside] at second
  cases second with
  | @cons _ _ _ _ next _ grows others =>
      exact ⟨blocks, next, last, first.words_eq, grows, Bool.false_bne (isFenceLine line) ▸ others,
        same⟩

/-- A fenced block, or the first lines of one, is put together into one block. -/
theorem exists_fenced_block {description opening : List Char} {before code after : List (List Char)}
    (stands : Text.lines description = before ++ opening :: (code ++ after))
    (outside : fenceOpen before = false) (fence : isFenceLine opening = true)
    (noFence : ∀ line ∈ code.dropLast, isFenceLine line = false) :
    ∃ base others more, blocksOf description =
        base ++ .verbatim (bare opening :: code.map sanitize ++ others) :: more ∧
      base.flatMap Block.words = before.flatMap Text.words := by
  obtain ⟨base, next, last, sameWords, grows, grown, same⟩ := exists_grows_at stands outside
  rw [fence] at grown
  obtain ⟨filled, inCode, behind⟩ := grown.exists_of_append
  have block := inCode.eq_of_code (grows.eq_of_isFenceLine fence) noFence
  obtain ⟨block', more, stands', extended⟩ :=
    behind.exists_blocksOf same block (Block.verbatim_ne_gap _)
  cases extended with
  | self => exact ⟨base, [], more, by rw [stands', List.append_nil]; rfl, sameWords⟩
  | verbatim _ others => exact ⟨base, others, more, stands', sameWords⟩

/-- A list item starts a paragraph. -/
theorem exists_item_block {description item : List Char} {before after : List (List Char)}
    (stands : Text.lines description = before ++ item :: after)
    (outside : fenceOpen before = false) (isItem : isItemLine item = true) :
    ∃ base text others more, blocksOf description = base ++ .paragraph text :: more ∧
      Text.words text = Text.words item ++ others ∧
      base.flatMap Block.words = before.flatMap Text.words := by
  obtain ⟨base, next, last, sameWords, grows, grown, same⟩ := exists_grows_at stands outside
  obtain ⟨block', more, stands', extended⟩ :=
    grown.exists_blocksOf same (grows.eq_of_isItemLine isItem) (Block.paragraph_ne_gap _)
  cases extended with
  | self =>
      exact ⟨base, bare item, [], more, stands', by rw [words_bare, List.append_nil], sameWords⟩
  | paragraph _ others =>
      refine ⟨base, _, Text.words others, more, stands', ?_, sameWords⟩
      rw [Text.words_append_cons (by decide), words_bare]

/-! ## Breaks -/

def Block.Starts : Block → Prop
  | .paragraph text => Text.words text ≠ []
  | .verbatim lines => ∃ first rest, lines = first :: rest ∧ first ≠ []
  | .gap => True

def Block.Ends : Block → Prop
  | .paragraph text => Text.words text ≠ []
  | .verbatim lines => ∃ rest last, lines = rest ++ [last] ∧ last ≠ []
  | .gap => True

/-- Blocks of which each starts with a line that is not empty, and each break stands behind another
block, which ends with such a line. -/
structure Spaced (blocks : List Block) : Prop where
  starts : ∀ block ∈ blocks, block.Starts
  apart : ∀ before after, blocks = before ++ .gap :: after →
    ∃ front block, before = front ++ [block] ∧ block ≠ .gap ∧ block.Ends

theorem spaced_nil : Spaced [] :=
  ⟨List.forall_mem_nil _, fun before after same => by simp at same⟩

theorem Spaced.of_append (spaced : Spaced (base ++ more)) : Spaced base := by
  constructor
  · intro block member
    exact spaced.starts block (List.mem_append_left more member)
  · rintro before after rfl
    exact spaced.apart before (after ++ more) (by rw [List.append_assoc, List.cons_append])

theorem Spaced.concat (spaced : Spaced base) (starts : block.Starts)
    (apart : block = .gap → ∃ front block, base = front ++ [block] ∧ block ≠ .gap ∧ block.Ends) :
    Spaced (base ++ [block]) := by
  constructor
  · rw [List.forall_mem_append, List.forall_mem_singleton]
    exact ⟨spaced.starts, starts⟩
  · intro before after same
    rcases List.eq_nil_or_concat' after with rfl | ⟨others, last, rfl⟩
    · obtain ⟨rfl, single⟩ := List.append_inj' same rfl
      exact apart (List.cons.inj single).1
    · rw [← List.cons_append, ← List.append_assoc] at same
      obtain ⟨rfl, -⟩ := List.append_inj' same rfl
      exact spaced.apart before others rfl

/-- Spaced blocks of which the last one ends with a line that is not empty, unless it is a fenced
block that is open. -/
structure Regular (inside : Bool) (blocks : List Block) : Prop extends Spaced blocks where
  ends : inside = false → ∀ base block, blocks = base ++ [block] → block.Ends

theorem regular_nil : Regular false [] :=
  ⟨spaced_nil, fun _ base block same => by simp at same⟩

theorem Regular.concat (spaced : Spaced base) (starts : block.Starts)
    (ends : inside = false → block.Ends)
    (apart : block = .gap → ∃ front block, base = front ++ [block] ∧ block ≠ .gap ∧ block.Ends) :
    Regular inside (base ++ [block]) := by
  refine ⟨spaced.concat starts apart, ?_⟩
  intro outside init last same
  obtain ⟨-, single⟩ := List.append_inj' same rfl
  exact (List.cons.inj single).1 ▸ ends outside

theorem Grows.regular (grows : Grows line inside blocks next) (regular : Regular inside blocks) :
    Regular (inside != isFenceLine line) next := by
  have nonempty (fence : isFenceLine line = true) : sanitize line ≠ [] := by
    intro empty
    apply bare_ne_nil_of_isFenceLine fence
    rw [bare, empty]
    rfl
  have spoken (nonblank : bare line ≠ []) : Text.words (bare line) ≠ [] := by
    rw [words_bare]
    exact mt bare_eq_nil_iff.mpr nonblank
  cases grows with
  | code base code =>
      have stands : Block.Starts (.verbatim code) :=
        regular.starts _ (List.mem_append_right base (List.mem_singleton.mpr rfl))
      obtain ⟨first, rest, rfl, some⟩ := stands
      refine Regular.concat regular.toSpaced.of_append ⟨first, rest ++ [sanitize line], rfl, some⟩
        ?_ fun isGap => absurd isGap (Block.verbatim_ne_gap _)
      intro outside
      cases fence : isFenceLine line with
      | true => exact ⟨first :: rest, sanitize line, rfl, nonempty fence⟩
      | false =>
          rw [fence] at outside
          cases outside
  | opening fence =>
      refine Regular.concat regular.toSpaced
        ⟨bare line, [], rfl, bare_ne_nil_of_isFenceLine fence⟩ ?_
        fun isGap => absurd isGap (Block.verbatim_ne_gap _)
      intro outside
      rw [fence] at outside
      cases outside
  | blank blank =>
      rw [not_isFenceLine_of_bare blank]
      exact regular
  | @gap base block blank apart =>
      rw [not_isFenceLine_of_bare blank]
      refine Regular.concat regular.toSpaced trivial (fun _ => trivial) ?_
      intro _
      exact ⟨base, block, rfl, apart, regular.ends rfl base block rfl⟩
  | start prose =>
      exact Regular.concat regular.toSpaced (spoken prose.nonblank)
        (fun _ => spoken prose.nonblank) fun isGap => absurd isGap (Block.paragraph_ne_gap _)
  | @goesOn base text prose =>
      have joined : Text.words (text ++ ' ' :: bare line) ≠ [] := by
        rw [Text.words_append_cons (by decide)]
        exact List.append_ne_nil_of_right_ne_nil _ (spoken prose.nonblank)
      exact Regular.concat regular.toSpaced.of_append joined (fun _ => joined)
        fun isGap => absurd isGap (Block.paragraph_ne_gap _)

theorem Grown.regular (grown : Grown inside lines blocks last) (regular : Regular inside blocks) :
    Spaced last := by
  induction grown with
  | nil => exact regular.toSpaced
  | cons grows _ ih => exact ih (grows.regular regular)

theorem spaced_blocksOf (description : List Char) : Spaced (blocksOf description) := by
  obtain ⟨blocks, grown, same⟩ := exists_grown description
  have spaced := grown.regular regular_nil
  obtain ⟨more, whole⟩ : blocksOf description <+: blocks := same ▸ List.rdropWhile_prefix _ _
  exact (whole ▸ spaced : Spaced (blocksOf description ++ more)).of_append

/-- A break stands between two other blocks. -/
theorem blocksOf_gap {description : List Char}
    (same : blocksOf description = base ++ .gap :: more) :
    (∃ front block, base = front ++ [block] ∧ block ≠ .gap ∧ block.Ends) ∧
      ∃ block rest, more = block :: rest ∧ block ≠ .gap ∧ block.Starts := by
  have spaced := spaced_blocksOf description
  refine ⟨spaced.apart base more same, ?_⟩
  cases more with
  | nil =>
      obtain ⟨blocks, -, dropped⟩ := exists_grown description
      have last := List.rdropWhile_idempotent (· == Block.gap) blocks
      rw [← dropped, same, List.rdropWhile_concat_pos _ _ _ rfl] at last
      have shorter := congrArg List.length last
      have atMost := (List.rdropWhile_prefix (· == Block.gap) base).length_le
      rw [List.length_append, List.length_singleton] at shorter
      omega
  | cons block rest =>
      refine ⟨block, rest, rfl, ?_, spaced.starts block (same ▸ by simp)⟩
      rintro rfl
      obtain ⟨front, last, inFront, apart, -⟩ :=
        spaced.apart (base ++ [.gap]) rest (by rw [same, List.append_assoc]; rfl)
      obtain ⟨-, single⟩ := List.append_inj' inFront rfl
      exact apart (List.cons.inj single).1.symm

end OptionSchema.Comment
