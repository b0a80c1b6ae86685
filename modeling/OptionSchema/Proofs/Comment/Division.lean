import OptionSchema.Proofs.Comment.Line

/-!
# Dividing a description

A description is divided line by line. What one line does to the blocks in front of it is said by
`Grows`: it goes on with the last block, becomes a block behind it, or is left out. Main statement:
`exists_grown`. The blocks of a description are what its lines make up, one after the other.
-/

namespace OptionSchema.Comment

open Text (words)

variable {division : Division} {line : List Char} {lines before after code : List (List Char)}
  {inside : Bool} {blocks base more next last : List Block} {block : Block}

/-! ## What a line does -/

/-- A line that is neither blank nor a fence. -/
structure IsProse (line : List Char) : Prop where
  nonblank : bare line ≠ []
  noFence : isFenceLine line = false

/-- What a line does to the blocks in front of it, given whether a fenced block is open. A line of
a fenced block goes on with it. A fence opens one. A blank line makes a break, except at the start
and behind a break. Any other line starts a paragraph, or goes on with one if it starts no item. -/
inductive Grows (line : List Char) : Bool → List Block → List Block → Prop where
  | code (base : List Block) (code : List (List Char)) :
      Grows line true (base ++ [.verbatim code]) (base ++ [.verbatim (code ++ [sanitize line])])
  | opening {blocks : List Block} (fence : isFenceLine line = true) :
      Grows line false blocks (blocks ++ [.verbatim [bare line]])
  | blank {blocks : List Block} (blank : bare line = [])
      (apart : blocks = [] ∨ ∃ base, blocks = base ++ [.gap]) : Grows line false blocks blocks
  | gap {base : List Block} {block : Block} (blank : bare line = []) (apart : block ≠ .gap) :
      Grows line false (base ++ [block]) (base ++ [block] ++ [.gap])
  | start {blocks : List Block} (prose : IsProse line) :
      Grows line false blocks (blocks ++ [.paragraph (bare line)])
  | goesOn {base : List Block} {text : List Char} (prose : IsProse line)
      (noItem : isItemLine line = false) :
      Grows line false (base ++ [.paragraph text])
        (base ++ [.paragraph (text ++ ' ' :: bare line)])

/-- What lines do to the blocks in front of them. -/
inductive Grown : Bool → List (List Char) → List Block → List Block → Prop where
  | nil {inside : Bool} {blocks : List Block} : Grown inside [] blocks blocks
  | cons {inside : Bool} {line : List Char} {rest : List (List Char)}
      {blocks next last : List Block} (grows : Grows line inside blocks next)
      (others : Grown (inside != isFenceLine line) rest next last) :
      Grown inside (line :: rest) blocks last

theorem not_isFenceLine_of_bare (blank : bare line = []) : isFenceLine line = false := by
  rw [← isFence_bare, blank]
  rfl

theorem bare_ne_nil_of_isFenceLine (fence : isFenceLine line = true) : bare line ≠ [] := by
  intro blank
  rw [not_isFenceLine_of_bare blank] at fence
  cases fence

/-- Lines can be cut in two. -/
theorem Grown.exists_of_append (grown : Grown inside (before ++ after) blocks last) :
    ∃ next, Grown inside before blocks next ∧
      Grown (inside != fenceOpen before) after next last := by
  induction before generalizing inside blocks with
  | nil =>
      have start : (inside != fenceOpen []) = inside := Bool.bne_false inside
      exact ⟨blocks, .nil, start.symm ▸ grown⟩
  | cons line rest ih =>
      cases grown with
      | cons grows others =>
          obtain ⟨next, first, second⟩ := ih others
          rw [Bool.bne_assoc, ← fenceOpen_cons] at second
          exact ⟨next, .cons grows first, second⟩

/-! ## Reading the lines -/

namespace Division

def closed (division : Division) : List Block :=
  division.flush.blocks.reverse ++
    (division.fence.map fun code => Block.verbatim code.reverse).toList

/-- A paragraph and a fenced block are never open at once. -/
def IsSound (division : Division) : Prop :=
  division.paragraph = [] ∨ division.fence = none

theorem flush_of_idle (blocks : List Block) (fence : Option (List (List Char))) :
    flush ⟨blocks, [], fence⟩ = ⟨blocks, [], fence⟩ :=
  rfl

theorem flush_of_open (blocks : List Block) {paragraph : List Char}
    (fence : Option (List (List Char))) (isOpen : paragraph ≠ []) :
    flush ⟨blocks, paragraph, fence⟩ = ⟨.paragraph paragraph :: blocks, [], fence⟩ := by
  rw [flush, if_neg (by simp [isOpen])]

/-- A line within a fenced block. -/
theorem readCode_grows (blocks : List Block) (code : List (List Char)) (line : List Char) :
    let division : Division := ⟨blocks, [], some code⟩
    let read := division.readLine line
    Grows line true division.closed read.closed ∧ read.IsSound ∧
      read.fence.isSome = !isFenceLine line := by
  intro division read
  have reads : read = division.readCode code (sanitize line) := rfl
  have fence : isFence (Text.trimStart (sanitize line)) = isFenceLine line := isFence_bare line
  have grows : Grows line true _ _ := .code blocks.reverse code.reverse
  rw [readCode, fence] at reads
  cases kind : isFenceLine line with
  | true =>
      rw [kind, if_pos rfl] at reads
      rw [reads]
      refine ⟨?_, .inl rfl, rfl⟩
      simpa [division, closed, flush] using grows
  | false =>
      rw [kind, if_neg Bool.false_ne_true] at reads
      rw [reads]
      refine ⟨?_, .inl rfl, rfl⟩
      simpa [division, closed, flush] using grows

/-- A division without an open block has only the blocks that have been found. -/
theorem closed_of_idle (blocks : List Block) : closed ⟨blocks, [], none⟩ = blocks.reverse := by
  rw [closed, flush_of_idle]
  exact List.append_nil _

theorem closed_of_paragraph (blocks : List Block) {paragraph : List Char}
    (isOpen : paragraph ≠ []) :
    closed ⟨blocks, paragraph, none⟩ = blocks.reverse ++ [.paragraph paragraph] := by
  rw [closed, flush_of_open blocks none isOpen, List.reverse_cons]
  exact List.append_nil _

/-- Without an open fenced block, closing the open paragraph changes nothing. -/
theorem flush_eq (blocks : List Block) (paragraph : List Char) :
    ∃ others, flush ⟨blocks, paragraph, none⟩ = ⟨others, [], none⟩ ∧
      closed ⟨blocks, paragraph, none⟩ = others.reverse := by
  by_cases idle : paragraph = []
  · subst idle
    exact ⟨blocks, rfl, closed_of_idle blocks⟩
  · refine ⟨.paragraph paragraph :: blocks, flush_of_open blocks none idle, ?_⟩
    rw [closed_of_paragraph blocks idle, List.reverse_cons]

/-- A blank line outside of fenced blocks. -/
theorem separate_grows (blank : bare line = []) (blocks : List Block) :
    Grows line false blocks.reverse (separate ⟨blocks, [], none⟩).closed ∧
      (separate ⟨blocks, [], none⟩).paragraph = [] ∧ (separate ⟨blocks, [], none⟩).fence = none := by
  cases blocks with
  | nil => exact ⟨.blank blank (.inl rfl), rfl, rfl⟩
  | cons block others =>
      by_cases isGap : block = .gap
      · subst isGap
        have stays : separate ⟨.gap :: others, [], none⟩ = ⟨.gap :: others, [], none⟩ := rfl
        rw [stays, closed_of_idle]
        exact ⟨.blank blank (.inr ⟨others.reverse, List.reverse_cons⟩), rfl, rfl⟩
      · have grown : separate ⟨block :: others, [], none⟩ = ⟨.gap :: block :: others, [], none⟩ := by
          cases block with
          | gap => exact absurd rfl isGap
          | paragraph => rfl
          | verbatim => rfl
        have twice : (Block.gap :: block :: others).reverse = others.reverse ++ [block] ++ [.gap] := by
          rw [List.reverse_cons, List.reverse_cons]
        rw [grown, closed_of_idle, twice, List.reverse_cons]
        exact ⟨.gap blank isGap, rfl, rfl⟩

/-- A line that starts a paragraph. -/
theorem extend_grows_start (prose : IsProse line) (blocks : List Block) :
    Grows line false blocks.reverse (extend ⟨blocks, [], none⟩ (bare line)).closed := by
  have started : extend ⟨blocks, [], none⟩ (bare line) = ⟨blocks, bare line, none⟩ := rfl
  rw [started, closed_of_paragraph blocks prose.nonblank]
  exact .start prose

/-- A line that goes on with a paragraph if one is open. -/
theorem extend_grows (prose : IsProse line) (noItem : isItemLine line = false)
    (blocks : List Block) (paragraph : List Char) :
    Grows line false (closed ⟨blocks, paragraph, none⟩)
      (extend ⟨blocks, paragraph, none⟩ (bare line)).closed := by
  by_cases idle : paragraph = []
  · subst idle
    rw [closed_of_idle]
    exact extend_grows_start prose blocks
  · have goesOn : extend ⟨blocks, paragraph, none⟩ (bare line) =
        ⟨blocks, paragraph ++ ' ' :: bare line, none⟩ :=
      congrArg (Division.mk blocks · none) (if_neg (mt List.isEmpty_iff.mp idle))
    have longer : paragraph ++ ' ' :: bare line ≠ [] := by simp
    rw [goesOn, closed_of_paragraph blocks idle, closed_of_paragraph blocks longer]
    exact .goesOn prose noItem

/-- A line outside of fenced blocks. -/
theorem readProse_grows (blocks : List Block) (paragraph line : List Char) :
    let division : Division := ⟨blocks, paragraph, none⟩
    let read := division.readLine line
    Grows line false division.closed read.closed ∧ read.IsSound ∧
      read.fence.isSome = isFenceLine line := by
  intro division read
  have reads : read = division.readProse (bare line) := rfl
  obtain ⟨others, flushed, closed⟩ := flush_eq blocks paragraph
  change division.flush = _ at flushed
  change division.closed = _ at closed
  rw [readProse, isFence_bare, isListItem_bare] at reads
  cases fence : isFenceLine line with
  | true =>
      rw [fence, if_pos rfl, flushed] at reads
      rw [reads, closed]
      exact ⟨.opening fence, .inl rfl, rfl⟩
  | false =>
      rw [fence, if_neg Bool.false_ne_true] at reads
      by_cases blank : bare line = []
      · rw [blank, List.isEmpty_nil, if_pos rfl, flushed] at reads
        obtain ⟨grows, idle, noFence⟩ := separate_grows blank others
        rw [reads, closed, noFence]
        exact ⟨grows, .inl idle, rfl⟩
      · have prose : IsProse line := ⟨blank, fence⟩
        rw [if_neg (mt List.isEmpty_iff.mp blank)] at reads
        cases item : isItemLine line with
        | true =>
            rw [item, if_pos rfl, flushed] at reads
            rw [reads, closed]
            exact ⟨extend_grows_start prose others, .inr rfl, rfl⟩
        | false =>
            rw [item, if_neg Bool.false_ne_true] at reads
            rw [reads]
            exact ⟨extend_grows prose item blocks paragraph, .inr rfl, rfl⟩

/-- Reading a line does to the blocks what the line does. -/
theorem readLine_grows (sound : division.IsSound) (line : List Char) :
    Grows line division.fence.isSome division.closed (division.readLine line).closed ∧
      (division.readLine line).IsSound ∧
      (division.readLine line).fence.isSome = (division.fence.isSome != isFenceLine line) := by
  obtain ⟨blocks, paragraph, fence⟩ := division
  cases fence with
  | none =>
      have read := readProse_grows blocks paragraph line
      exact ⟨read.1, read.2.1, read.2.2.trans (Bool.false_bne _).symm⟩
  | some code =>
      rcases sound with idle | none
      · have idle : paragraph = [] := idle
        subst idle
        have read := readCode_grows blocks code line
        exact ⟨read.1, read.2.1, read.2.2.trans (Bool.true_bne _).symm⟩
      · cases none

/-- Reading lines does to the blocks what the lines do. -/
theorem foldl_readLine_grown (sound : division.IsSound) (lines : List (List Char)) :
    Grown division.fence.isSome lines division.closed (lines.foldl readLine division).closed ∧
      (lines.foldl readLine division).IsSound := by
  induction lines generalizing division with
  | nil => exact ⟨.nil, sound⟩
  | cons line rest ih =>
      obtain ⟨grows, sound', inside⟩ := readLine_grows sound line
      obtain ⟨others, last⟩ := ih sound'
      rw [inside] at others
      exact ⟨.cons grows others, last⟩

/-- At the end breaks are left out. -/
theorem finish_eq (sound : division.IsSound) :
    division.finish = division.closed.rdropWhile (· == .gap) := by
  obtain ⟨blocks, paragraph, fence⟩ := division
  cases fence with
  | none =>
      obtain ⟨others, flushed, closed⟩ := flush_eq blocks paragraph
      rw [finish, flushed, closed, List.rdropWhile, List.reverse_reverse]
  | some code =>
      rcases sound with idle | none
      · have idle : paragraph = [] := idle
        subst idle
        rw [finish, closed, flush_of_idle, List.rdropWhile]
        simp
      · cases none

end Division

/-- The blocks of a description are those that its lines make up, without the breaks at the end. -/
theorem exists_grown (description : List Char) :
    ∃ blocks, Grown false (Text.lines description) [] blocks ∧
      blocksOf description = blocks.rdropWhile (· == .gap) := by
  have sound : Division.start.IsSound := .inl rfl
  obtain ⟨grown, sound'⟩ := Division.foldl_readLine_grown sound (Text.lines description)
  exact ⟨_, grown, Division.finish_eq sound'⟩

end OptionSchema.Comment
