import OptionSchema.Proofs.Comment.Block
import OptionSchema.Proofs.Comment.Wrap

/-!
# The text of a reflowed description

A reflowed description has the words of the description in order. The lines of a fenced block stand
together, each as a line of its own, a list item starts a line, and an empty line outside of fenced
blocks stands between two lines that are not empty. Main statement: `reflow_keeps_text`.
-/

namespace OptionSchema.Comment

open Text (isBlank words)

variable {width : Nat} {description line text : List Char}
  {before after code shown : List (List Char)} {inside : Bool}
  {blocks base more next last : List Block} {block : Block}

/-! ## Marked lines -/

def Block.isFenced : Block → Bool
  | .verbatim _ => true
  | .paragraph _ | .gap => false

/-- The lines of a block, each with whether it is taken from a fenced block. -/
def Block.marked (width : Nat) (block : Block) : List (Bool × List Char) :=
  (block.lines width).map (block.isFenced, ·)

def markedReflow (width : Nat) (description : List Char) : List (Bool × List Char) :=
  (blocksOf description).flatMap (Block.marked (max width leastWidth))

def markedWords (marked : List (Bool × List Char)) : List (List Char) :=
  marked.flatMap fun line => words line.2

theorem map_snd_markedReflow (width : Nat) (description : List Char) :
    (markedReflow width description).map Prod.snd = reflow width description := by
  have lines : (fun block => (Block.marked (max width leastWidth) block).map Prod.snd) =
      Block.lines (max width leastWidth) := by
    funext block
    rw [Block.marked, List.map_map]
    exact List.map_id _
  rw [markedReflow, List.map_flatMap, lines, reflow]

theorem Block.filter_marked (width : Nat) (block : Block) :
    ((block.marked width).filter Prod.fst).map Prod.snd = block.code := by
  cases block with
  | paragraph text =>
      have none : (Block.marked width (.paragraph text)).filter Prod.fst = [] :=
        List.filter_eq_nil_iff.mpr (List.forall_mem_map.mpr fun _ _ => Bool.false_ne_true)
      rw [none]
      rfl
  | verbatim lines =>
      have all : (Block.marked width (.verbatim lines)).filter Prod.fst =
          Block.marked width (.verbatim lines) :=
        List.filter_eq_self.mpr (List.forall_mem_map.mpr fun _ _ => rfl)
      rw [all, marked, List.map_map]
      exact List.map_id _
  | gap => rfl

/-- The lines that are taken from fenced blocks are those of the fenced blocks of the description. -/
theorem filter_markedReflow (width : Nat) (description : List Char) :
    ((markedReflow width description).filter Prod.fst).map Prod.snd =
      fencedLines false (Text.lines description) := by
  rw [markedReflow, List.filter_flatMap, List.map_flatMap, ← flatMap_code_blocksOf]
  exact List.flatMap_congr fun block _ => Block.filter_marked _ block

theorem Block.words_lines (width : Nat) (block : Block) :
    (block.lines width).flatMap Text.words = block.words := by
  cases block with
  | paragraph text => exact (isWrapped_wrap width text).words_eq
  | verbatim | gap => rfl

theorem markedWords_flatMap (width : Nat) (blocks : List Block) :
    markedWords (blocks.flatMap (Block.marked width)) = blocks.flatMap Block.words := by
  rw [markedWords, List.flatMap_assoc]
  refine List.flatMap_congr fun block _ => ?_
  rw [Block.marked, List.flatMap_map, ← Block.words_lines width]

theorem markedWords_append (first second : List (Bool × List Char)) :
    markedWords (first ++ second) = markedWords first ++ markedWords second :=
  List.flatMap_append

theorem markedWords_markedReflow (width : Nat) (description : List Char) :
    markedWords (markedReflow width description) = words description := by
  rw [markedReflow, markedWords_flatMap, flatMap_words_blocksOf]

theorem markedWords_map (mark : Bool) (lines : List (List Char)) :
    markedWords (lines.map (mark, ·)) = lines.flatMap words := by
  rw [markedWords, List.flatMap_map]

theorem flatMap_words_reflow (width : Nat) (description : List Char) :
    (reflow width description).flatMap words = words description := by
  rw [← map_snd_markedReflow, List.flatMap_map]
  exact markedWords_markedReflow width description

/-! ## Places of lines -/

/-- What stands in the lines of many blocks stands in the lines of one of them. -/
theorem exists_of_flatMap_eq {α β : Type} {f : α → List β} {items : List α} {start rest : List β}
    {x : β} (same : items.flatMap f = start ++ x :: rest) :
    ∃ front item back start' rest', items = front ++ item :: back ∧
      f item = start' ++ x :: rest' ∧ start = front.flatMap f ++ start' ∧
      rest = rest' ++ back.flatMap f := by
  induction items generalizing start with
  | nil => simp at same
  | cons item items ih =>
      have split : (∃ start', start = f item ++ start' ∧ items.flatMap f = start' ++ x :: rest) ∨
          ∃ own, f item = start ++ x :: own ∧ rest = own ++ items.flatMap f := by
        rw [List.flatMap_cons, List.append_eq_append_iff] at same
        rcases same with later | ⟨own, whole, same⟩
        · exact .inl later
        · cases own with
          | nil => exact .inl ⟨[], by rw [whole, List.append_nil, List.append_nil], same.symm⟩
          | cons first own =>
              obtain ⟨rfl, rest⟩ := List.cons.inj same
              exact .inr ⟨own, whole, rest⟩
      clear same
      rcases split with ⟨start', rfl, same⟩ | ⟨own, whole, rfl⟩
      · obtain ⟨front, other, back, start'', rest', rfl, own, rfl, rfl⟩ := ih same
        refine ⟨item :: front, other, back, start'', rest', rfl, own, ?_, rfl⟩
        rw [List.flatMap_cons, List.append_assoc]
      · exact ⟨[], item, items, start, own, rfl, whole, rfl, rfl⟩

theorem Block.Starts.exists_line (starts : block.Starts) (width : Nat) (apart : block ≠ .gap) :
    ∃ mark line back, block.marked width = (mark, line) :: back ∧ line ≠ [] := by
  cases block with
  | paragraph text =>
      have wrapped := isWrapped_wrap width text
      obtain ⟨line, others, same⟩ := List.exists_cons_of_ne_nil (wrapped.ne_nil starts)
      refine ⟨false, line, others.map (false, ·), ?_, ?_⟩
      · rw [marked, lines, same]
        rfl
      · exact wrapped.line_ne_nil line (same ▸ List.mem_cons_self ..)
  | verbatim lines =>
      obtain ⟨first, rest, rfl, nonempty⟩ := starts
      exact ⟨true, first, rest.map (true, ·), rfl, nonempty⟩
  | gap => exact absurd rfl apart

theorem Block.Ends.exists_line (ends : block.Ends) (width : Nat) (apart : block ≠ .gap) :
    ∃ front mark line, block.marked width = front ++ [(mark, line)] ∧ line ≠ [] := by
  cases block with
  | paragraph text =>
      have wrapped := isWrapped_wrap width text
      obtain ⟨others, line, same⟩ := (List.eq_nil_or_concat' _).resolve_left (wrapped.ne_nil ends)
      refine ⟨others.map (false, ·), false, line, ?_, ?_⟩
      · rw [marked, lines, same, List.map_append]
        rfl
      · exact wrapped.line_ne_nil line (same ▸ List.mem_append_right _ (List.mem_cons_self ..))
  | verbatim lines =>
      obtain ⟨rest, last, rfl, nonempty⟩ := ends
      exact ⟨rest.map (true, ·), true, last, List.map_append, nonempty⟩
  | gap => exact absurd rfl apart

/-- Only a break is an empty line outside of fenced blocks. -/
theorem Block.eq_gap_of_marked {start rest : List (Bool × List Char)}
    (stands : block.marked width = start ++ (false, []) :: rest) :
    block = .gap ∧ start = [] ∧ rest = [] := by
  have member : (false, []) ∈ block.marked width := by
    rw [stands]
    exact List.mem_append_right start (List.mem_cons_self ..)
  rw [marked, List.mem_map] at member
  obtain ⟨line, isLine, same⟩ := member
  obtain ⟨outside, rfl⟩ := Prod.mk.inj same
  cases block with
  | paragraph text => exact absurd rfl ((isWrapped_wrap width text).line_ne_nil [] isLine)
  | verbatim => cases outside
  | gap =>
      have single : [(false, [])] = start ++ (false, []) :: rest := stands
      rw [List.singleton_eq_append_iff] at single
      simpa using single

/-! ## What a reflowed description keeps -/

/-- What marked lines keep of a description: its words in order, and the lines of its fenced blocks.
The opening line of a fenced block and the lines behind it, up to the line that closes the block,
stand together, and in front of them and behind them stand the words that do so in the description.
A list item starts a line. An empty line outside of fenced blocks stands between two others that are
not empty. -/
structure KeepsText (description : List Char) (marked : List (Bool × List Char)) : Prop where
  words_eq : markedWords marked = words description
  code_eq : (marked.filter Prod.fst).map Prod.snd = fencedLines false (Text.lines description)
  fenced : ∀ before opening code after,
    Text.lines description = before ++ opening :: (code ++ after) →
    fenceOpen before = false → isFenceLine opening = true →
    (∀ line ∈ code.dropLast, isFenceLine line = false) →
    ∃ start rest, marked = start ++ (bare opening :: code.map sanitize).map (true, ·) ++ rest ∧
      markedWords start = before.flatMap words ∧ markedWords rest = after.flatMap words
  items : ∀ before item after, Text.lines description = before ++ item :: after →
    fenceOpen before = false → isItemLine item = true →
    ∃ start line rest, marked = start ++ (false, line) :: rest ∧
      markedWords start = before.flatMap words ∧
      ∃ word, (words item).head? = some word ∧ (words line).head? = some word ∧ word <+: line
  spaced : ∀ start rest, marked = start ++ (false, []) :: rest →
    (∃ front mark line, start = front ++ [(mark, line)] ∧ line ≠ []) ∧
      ∃ mark line back, rest = (mark, line) :: back ∧ line ≠ []

/-- The lines in front of a block of a description, those of the block, and those behind it. -/
theorem markedReflow_eq (stands : blocksOf description = base ++ block :: more) (width : Nat) :
    markedReflow width description = base.flatMap (Block.marked (max width leastWidth)) ++
      (block.marked (max width leastWidth) ++
        more.flatMap (Block.marked (max width leastWidth))) := by
  rw [markedReflow, stands, List.flatMap_append, List.flatMap_cons]

theorem exists_fenced_lines {opening : List Char}
    (stands : Text.lines description = before ++ opening :: (code ++ after))
    (outside : fenceOpen before = false) (fence : isFenceLine opening = true)
    (noFence : ∀ line ∈ code.dropLast, isFenceLine line = false) (width : Nat) :
    ∃ start rest, markedReflow width description =
        start ++ (bare opening :: code.map sanitize).map (true, ·) ++ rest ∧
      markedWords start = before.flatMap words ∧ markedWords rest = after.flatMap words := by
  obtain ⟨base, others, more, blocks, sameWords⟩ :=
    exists_fenced_block stands outside fence noFence
  have inFront : markedWords (base.flatMap (Block.marked (max width leastWidth))) =
      before.flatMap words := by
    rw [markedWords_flatMap, sameWords]
  have whole : markedReflow width description =
      base.flatMap (Block.marked (max width leastWidth)) ++
        (bare opening :: code.map sanitize).map (true, ·) ++
        (others.map (true, ·) ++ more.flatMap (Block.marked (max width leastWidth))) := by
    rw [markedReflow_eq blocks, Block.marked, Block.lines, List.map_append, List.append_assoc,
      List.append_assoc]
    rfl
  refine ⟨_, _, whole, inFront, ?_⟩
  -- the words behind the block are those that the lines in front of it and its own do not have
  have total := markedWords_markedReflow width description
  have own : (code.map sanitize).flatMap words = code.flatMap words := by
    rw [List.flatMap_map]
    exact List.flatMap_congr fun line _ => words_sanitize line
  rw [whole, markedWords_append, markedWords_append, inFront, markedWords_map,
    ← Text.flatMap_words_lines description, stands, List.flatMap_append, List.flatMap_cons,
    List.flatMap_cons, List.flatMap_append, words_bare, own, List.append_assoc, List.append_assoc]
    at total
  exact List.append_cancel_left (List.append_cancel_left (List.append_cancel_left total))

theorem exists_item_line {item : List Char}
    (stands : Text.lines description = before ++ item :: after)
    (outside : fenceOpen before = false) (isItem : isItemLine item = true) (width : Nat) :
    ∃ start line rest, markedReflow width description = start ++ (false, line) :: rest ∧
      markedWords start = before.flatMap words ∧
      ∃ word, (words item).head? = some word ∧ (words line).head? = some word ∧ word <+: line := by
  obtain ⟨base, text, others, more, blocks, textWords, sameWords⟩ :=
    exists_item_block stands outside isItem
  obtain ⟨first, own, itemWords⟩ := List.exists_cons_of_ne_nil
    (mt bare_eq_nil_iff.mpr (bare_of_isItemLine isItem).1)
  have wrapped := isWrapped_wrap (max width leastWidth) text
  have spoken : words text ≠ [] := by
    rw [textWords, itemWords]
    exact List.cons_ne_nil _ _
  obtain ⟨line, lines, same⟩ := List.exists_cons_of_ne_nil (wrapped.ne_nil spoken)
  obtain ⟨word, rest, lineWords, start⟩ :=
    wrapped.starts line (same ▸ List.mem_cons_self ..)
  refine ⟨base.flatMap (Block.marked (max width leastWidth)), line,
    lines.map (false, ·) ++ more.flatMap (Block.marked (max width leastWidth)),
    ?_, ?_, word, ?_, ?_, start⟩
  · rw [markedReflow_eq blocks, Block.marked, Block.lines, same]
    rfl
  · rw [markedWords_flatMap, sameWords]
  · have total := wrapped.words_eq
    rw [same, List.flatMap_cons, lineWords, textWords, itemWords] at total
    rw [itemWords, (List.cons.inj total).1]
    rfl
  · rw [lineWords]
    rfl

theorem between_of_markedReflow {start rest : List (Bool × List Char)}
    (stands : markedReflow width description = start ++ (false, []) :: rest) :
    (∃ front mark line, start = front ++ [(mark, line)] ∧ line ≠ []) ∧
      ∃ mark line back, rest = (mark, line) :: back ∧ line ≠ [] := by
  obtain ⟨base, block, more, own, others, blocks, inBlock, rfl, rfl⟩ := exists_of_flatMap_eq stands
  obtain ⟨rfl, rfl, rfl⟩ := Block.eq_gap_of_marked inBlock
  obtain ⟨⟨front, last, rfl, apart, ends⟩, next, back, rfl, apart', starts⟩ := blocksOf_gap blocks
  constructor
  · obtain ⟨lines, mark, line, same, nonempty⟩ :=
      ends.exists_line (max width leastWidth) apart
    refine ⟨front.flatMap (Block.marked (max width leastWidth)) ++ lines, mark, line, ?_, nonempty⟩
    rw [List.append_nil, List.flatMap_append, List.flatMap_singleton, same, List.append_assoc]
  · obtain ⟨mark, line, lines, same, nonempty⟩ :=
      starts.exists_line (max width leastWidth) apart'
    refine ⟨mark, line, lines ++ back.flatMap (Block.marked (max width leastWidth)), ?_, nonempty⟩
    rw [List.nil_append, List.flatMap_cons, same, List.cons_append]

theorem reflow_eq_nil_iff : reflow width description = [] ↔ ∀ c ∈ description, isBlank c = true := by
  constructor
  · intro empty
    rw [← Text.words_eq_nil_iff, ← flatMap_words_reflow width, empty]
    rfl
  · intro blank
    rw [reflow, blocksOf_of_blank (Text.words_eq_nil_iff.mpr blank)]
    rfl

/-- A reflowed description keeps the text of the description, and there is nothing of it only if all
of the description is blank. -/
theorem reflow_keeps_text (width : Nat) (description : List Char) :
    (markedReflow width description).map Prod.snd = reflow width description ∧
      (reflow width description = [] ↔ ∀ c ∈ description, isBlank c = true) ∧
      KeepsText description (markedReflow width description) := by
  refine ⟨map_snd_markedReflow width description, reflow_eq_nil_iff, ?_⟩
  constructor
  case words_eq => exact markedWords_markedReflow width description
  case code_eq => exact filter_markedReflow width description
  case fenced =>
    intro before opening code after stands outside fence noFence
    exact exists_fenced_lines stands outside fence noFence width
  case items =>
    intro before item after stands outside isItem
    exact exists_item_line stands outside isItem width
  case spaced => exact fun start rest stands => between_of_markedReflow stands

/-- A description with a break, a list item and a fenced block with a tab and an empty line in it. -/
def serviceNotes : List Char :=
  "Runs  it.\n \n- first\n  one\n ```nix\n\n\tx;  \n```\nEnd.".toList

theorem reflow_keeps_text_serviceNotes :
    (reflow 20 serviceNotes).map String.ofList =
        ["Runs it.", "", "- first one", "```nix", "", "    x;", "```", "End."] ∧
      (∃ start rest, markedReflow 20 serviceNotes =
        start ++ [(true, "```nix".toList), (true, []), (true, "    x;".toList),
          (true, "```".toList)] ++ rest ∧
        markedWords start = words "Runs it. - first one".toList ∧
        markedWords rest = ["End.".toList]) ∧
      (∃ start line rest, markedReflow 20 serviceNotes = start ++ (false, line) :: rest ∧
        markedWords start = words "Runs it.".toList ∧ ['-'] <+: line) := by
  obtain ⟨-, -, kept⟩ := reflow_keeps_text 20 serviceNotes
  have divided : Text.lines serviceNotes = ["Runs  it.".toList, [' '], "- first".toList,
      "  one".toList, " ```nix".toList, [], "\tx;  ".toList, "```".toList, "End.".toList] := by
    decide +kernel
  refine ⟨by decide +kernel, ?_, ?_⟩
  · obtain ⟨start, rest, whole, inFront, behind⟩ :=
      kept.fenced ["Runs  it.".toList, [' '], "- first".toList, "  one".toList] " ```nix".toList
        [[], "\tx;  ".toList, "```".toList] ["End.".toList] divided (by decide +kernel)
        (by decide +kernel) (by decide +kernel)
    have written : bare " ```nix".toList :: [[], "\tx;  ".toList, "```".toList].map sanitize =
        ["```nix".toList, [], "    x;".toList, "```".toList] := by
      decide +kernel
    have spoken : ["Runs  it.".toList, [' '], "- first".toList, "  one".toList].flatMap words =
        words "Runs it. - first one".toList := by
      decide +kernel
    have last : ["End.".toList].flatMap words = ["End.".toList] := by decide +kernel
    rw [written] at whole
    exact ⟨start, rest, whole, inFront.trans spoken, behind.trans last⟩
  · obtain ⟨start, line, rest, whole, inFront, word, isFirst, -, starts⟩ :=
      kept.items ["Runs  it.".toList, [' ']] "- first".toList
        ["  one".toList, " ```nix".toList, [], "\tx;  ".toList, "```".toList, "End.".toList]
        divided (by decide +kernel) (by decide +kernel)
    have mark : (words "- first".toList).head? = some ['-'] := by decide +kernel
    have spoken : ["Runs  it.".toList, [' ']].flatMap words = words "Runs it.".toList := by
      decide +kernel
    rw [mark] at isFirst
    obtain rfl : ['-'] = word := Option.some.inj isFirst
    exact ⟨start, line, rest, whole, inFront.trans spoken, starts⟩

end OptionSchema.Comment
