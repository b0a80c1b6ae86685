import OptionSchema.Proofs.Toml.Table
import OptionSchema.Proofs.Toml.Value

/-!
# Reading written lines

A document is read line by line. `Draft.Takes` says what lines do to a draft, whatever follows them.
Main statements: `Draft.takes_section` and `Draft.takes_subsection`.
-/

namespace OptionSchema.Toml

open Json (NotNext notNext_cons notNext_nil)

variable {c : Char} {rest : List Char} {draft next : Draft}

theorem dropSpaces_of_notNext {text : List Char} (ahead : NotNext isSpace text) :
    dropSpaces text = text := by
  cases text with
  | nil => rfl
  | cons c text =>
      rw [notNext_cons] at ahead
      rw [dropSpaces, List.dropWhile_cons_of_neg (by rw [ahead]; decide)]

/-! ## Keys -/

def startsKey (c : Char) : Bool :=
  isBareKeyChar c || isQuote c

theorem startsKey_spec (starts : startsKey c = true) :
    isSpace c = false ∧ c ≠ '[' ∧ c ≠ '#' ∧ c ≠ '\n' ∧ c ≠ '\r' :=
  ⟨isSpace_eq_false (ne_of_kind starts (by decide)) (ne_of_kind starts (by decide)),
    ne_of_kind starts (by decide), ne_of_kind starts (by decide), ne_of_kind starts (by decide),
    ne_of_kind starts (by decide)⟩

theorem exists_keyText (key : List Char) :
    ∃ first more, keyText key = first :: more ∧ startsKey first = true := by
  unfold keyText
  dsimp only
  split
  · next bare =>
      rw [Bool.and_eq_true, Bool.not_eq_true', List.all_eq_true] at bare
      obtain ⟨some', all⟩ := bare
      cases key with
      | nil => cases some'
      | cons first more =>
          refine ⟨first, more, rfl, ?_⟩
          rw [startsKey, all first (List.mem_cons_self ..)]
          rfl
  · split
    · exact ⟨'"', _, rfl, rfl⟩
    · split
      · exact ⟨'\'', _, rfl, rfl⟩
      · exact ⟨'"', _, rfl, rfl⟩

theorem isQuote_of_isBareKeyChar (bare : isBareKeyChar c = true) : isQuote c = false :=
  isQuote_eq_false (ne_of_kind bare (by decide)) (ne_of_kind bare (by decide))

theorem keyPart?_bare {key : List Char} (some' : key ≠ []) (bare : key.all isBareKeyChar = true)
    (ahead : NotNext isBareKeyChar rest) :
    keyPart? (key ++ rest) = some (String.ofList key, rest) := by
  obtain ⟨first, more, rfl⟩ := List.exists_cons_of_ne_nil some'
  have bareFirst := bare
  rw [List.all_cons, Bool.and_eq_true] at bareFirst
  have notQuote := isQuote_of_isBareKeyChar bareFirst.1
  have notHere {quote : Char} {behind : List Char} (quotes : isQuote quote = true) :
      first :: more ++ rest ≠ quote :: behind := by
    intro same
    exact ne_of_kind quotes notQuote (List.cons.inj same).1.symm
  unfold keyPart?
  split
  · next same => exact absurd same (notHere rfl)
  · next same => exact absurd same (notHere rfl)
  · next same => exact absurd same (notHere rfl)
  · next same => exact absurd same (notHere rfl)
  · rw [Json.span_run bare ahead]
    rfl

theorem keyPart?_basicString (key : List Char) (ahead : NotNext isQuote rest) :
    keyPart? (basicString key ++ rest) = some (String.ofList key, rest) := by
  have read := quoted?_basicString key ahead
  rw [basicString_append] at read ⊢
  rw [keyPart?, read]
  exact fun more same => basicString_single key ahead more same

theorem keyPart?_literalString {key : List Char} (plain : key.all isPlain = true)
    (noQuote : '\'' ∉ key) (ahead : NotNext isQuote rest) :
    keyPart? (literalString key ++ rest) = some (String.ofList key, rest) := by
  have read := quoted?_literalString plain noQuote ahead
  rw [literalString_append] at read ⊢
  rw [keyPart?, read]
  exact fun more same => literalString_single noQuote ahead more same

theorem keyPart?_keyText (key : List Char) (ahead : NotNext startsKey rest) :
    keyPart? (keyText key ++ rest) = some (String.ofList key, rest) := by
  have noQuote : NotNext isQuote rest := fun c first => (Bool.or_eq_false_iff.mp (ahead c first)).2
  have noBare : NotNext isBareKeyChar rest := fun c first =>
    (Bool.or_eq_false_iff.mp (ahead c first)).1
  unfold keyText
  dsimp only
  split
  · next bare =>
      rw [Bool.and_eq_true, Bool.not_eq_true', List.isEmpty_eq_false_iff] at bare
      exact keyPart?_bare bare.1 bare.2 noBare
  · split
    · exact keyPart?_basicString key noQuote
    · split
      · next isLiteral =>
          simp only [Bool.and_eq_true, Bool.not_eq_true', List.contains_eq_mem,
            decide_eq_false_iff_not, List.any_eq_false, Bool.or_eq_true, beq_iff_eq,
            not_or] at isLiteral
          obtain ⟨noSingle, free⟩ := isLiteral
          refine keyPart?_literalString (List.all_eq_true.mpr fun c member => ?_) noSingle noQuote
          obtain ⟨notControl, notFeed⟩ := free c member
          have plain := isPlain_or_of_not_needsEscape (Bool.eq_false_iff.mpr notControl)
          exact plain.resolve_right notFeed
      · exact keyPart?_basicString key noQuote

/-- The key of an entry. -/
theorem key?_keyText (key : List Char) (rest : List Char) :
    key? (keyText key ++ ' ' :: '=' :: rest) = some (([], String.ofList key), '=' :: rest) := by
  have part := keyPart?_keyText key ((notNext_cons startsKey ' ' ('=' :: rest)).mpr rfl)
  rw [key?, levelLimit, keyParts?, part]
  rfl

/-- A name that is written without quotes. -/
def IsBareKey (name : String) : Prop :=
  name.toList ≠ [] ∧ name.toList.all isBareKeyChar = true

instance (name : String) : Decidable (IsBareKey name) :=
  inferInstanceAs (Decidable (_ ∧ _))

def dotted (path : List String) : List Char :=
  ['.'].intercalate (path.map String.toList)

theorem dotted_cons {first : String} {path : List String} (more : path ≠ []) :
    dotted (first :: path) = first.toList ++ '.' :: dotted path := by
  rw [dotted, List.map_cons, List.intercalate_cons_of_ne_nil (by simpa using more),
    List.append_assoc]
  rfl

theorem exists_dotted {path : List String} (some' : path ≠ [])
    (bare : ∀ part ∈ path, IsBareKey part) :
    ∃ c more, dotted path = c :: more ∧ isBareKeyChar c = true := by
  obtain ⟨first, path, rfl⟩ := List.exists_cons_of_ne_nil some'
  obtain ⟨isSome, all⟩ := bare first (List.mem_cons_self ..)
  obtain ⟨c, more, chars⟩ := List.exists_cons_of_ne_nil isSome
  rw [chars, List.all_cons, Bool.and_eq_true] at all
  cases path with
  | nil =>
      refine ⟨c, more, ?_, all.1⟩
      rw [dotted, List.map_singleton, List.intercalate_singleton, chars]
  | cons second path =>
      refine ⟨c, more ++ '.' :: dotted (second :: path), ?_, all.1⟩
      rw [dotted_cons (List.cons_ne_nil _ _), chars]
      rfl

theorem startsKey_of_isBareKeyChar (bare : isBareKeyChar c = true) : startsKey c = true := by
  rw [startsKey, bare]
  rfl

/-- The path of a header. -/
theorem keyParts?_dotted {path : List String} {name : String} {levels : Nat}
    (few : path.length < levels) (bare : ∀ part ∈ path ++ [name], IsBareKey part) :
    keyParts? levels (dotted (path ++ [name]) ++ ']' :: rest) = some ((path, name), ']' :: rest) := by
  induction path generalizing levels with
  | nil =>
      obtain ⟨levels, rfl⟩ := Nat.exists_eq_add_one_of_ne_zero (Nat.ne_of_gt few)
      obtain ⟨some', all⟩ := bare name (by simp)
      have part := keyPart?_bare some' all ((notNext_cons isBareKeyChar ']' rest).mpr rfl)
      rw [List.nil_append, dotted, List.map_singleton, List.intercalate_singleton, keyParts?, part]
      simp [dropSpaces, isSpace]
  | cons first path ih =>
      cases levels with
      | zero => cases few
      | succ levels =>
          obtain ⟨bareFirst, bareOthers⟩ := List.forall_mem_cons.mp bare
          change ∀ part ∈ path ++ [name], IsBareKey part at bareOthers
          obtain ⟨c, more, same, isBare⟩ := exists_dotted (by simp) bareOthers
          have part := keyPart?_bare bareFirst.1 bareFirst.2
            ((notNext_cons isBareKeyChar '.' (dotted (path ++ [name]) ++ ']' :: rest)).mpr rfl)
          have spaced : dropSpaces (dotted (path ++ [name]) ++ ']' :: rest) =
              dotted (path ++ [name]) ++ ']' :: rest := by
            rw [same, List.cons_append]
            exact dropSpaces_of_notNext ((notNext_cons ..).mpr
              (startsKey_spec (startsKey_of_isBareKeyChar isBare)).1)
          rw [List.cons_append, dotted_cons (by simp), List.append_assoc, List.cons_append, keyParts?,
            part, Option.bind_eq_bind, Option.bind_some]
          change (keyParts? levels (dropSpaces (dotted (path ++ [name]) ++ ']' :: rest)) >>= _) = _
          -- each part takes one of the levels that a path can have
          rw [spaced, ih (Nat.lt_of_succ_lt_succ few) bareOthers, String.ofList_toList]
          rfl

/-! ## Lines -/

/-- A draft becomes another by some lines, whatever follows them. -/
def Draft.Takes (draft : Draft) (text : List Char) (next : Draft) : Prop :=
  ∃ lines ≤ text.length, ∀ fuel rest,
    readLines? (fuel + lines) draft (text ++ rest) = readLines? fuel next rest

theorem Draft.takes_nil (draft : Draft) : draft.Takes [] draft :=
  ⟨0, Nat.le_refl _, fun _ _ => rfl⟩

theorem Draft.Takes.append {last : Draft} {text more : List Char} (first : draft.Takes text next)
    (second : next.Takes more last) : draft.Takes (text ++ more) last := by
  obtain ⟨lines, few, taken⟩ := first
  obtain ⟨linesOn, fewOn, takenOn⟩ := second
  refine ⟨linesOn + lines, ?_, fun fuel rest => ?_⟩
  · rw [List.length_append]
    omega
  · rw [List.append_assoc, ← Nat.add_assoc, taken, takenOn]

theorem Draft.takes_blank (draft : Draft) : draft.Takes ['\n'] draft :=
  ⟨1, Nat.le_refl _, fun _ _ => rfl⟩

/-- A line with a key does not end where it starts. -/
theorem lineEnd?_of_startsKey {text : List Char} (starts : startsKey c = true) :
    lineEnd? (c :: text) = none := by
  obtain ⟨notSpace, -, notMark, notFeed, notReturn⟩ := startsKey_spec starts
  have untouched : dropComment (dropSpaces (c :: text)) = c :: text := by
    rw [dropSpaces_of_notNext ((notNext_cons ..).mpr notSpace), dropComment]
    exact fun _ same => notMark (List.cons.inj same).1
  rw [lineEnd?, untouched]
  change lineFeed? (c :: text) = none
  rw [lineFeed?.eq_def]
  split
  · next same => exact absurd (List.cons.inj same).1 notFeed
  · next same => exact absurd (List.cons.inj same).1 notReturn
  · rfl

theorem readLines?_entry {fuel : Nat} {key : String} {value : Value} {text behind : List Char}
    (starts : startsKey c = true) (isKey : key? (c :: text) = some (([], key), '=' :: ' ' :: behind))
    (ahead : NotNext isSpace behind) (isValue : readValue? behind = some (value, '\n' :: rest))
    (isPut : draft.put [] key value = some next) :
    readLines? (fuel + 1) draft (c :: text) = readLines? fuel next rest := by
  obtain ⟨notSpace, notBracket, -⟩ := startsKey_spec starts
  have spaced : dropSpaces (' ' :: behind) = behind := dropSpaces_of_notNext ahead
  rw [readLines?, dropSpaces_of_notNext ((notNext_cons ..).mpr notSpace)]
  · split
    · next same => exact absurd (List.cons.inj same).1 notBracket
    · next same => exact absurd (List.cons.inj same).1 notBracket
    · rw [lineEnd?_of_startsKey starts]
      dsimp only
      rw [isKey]
      change (readValue? (dropSpaces (' ' :: behind)) >>= _) = _
      rw [spaced, isValue]
      change (draft.put [] key value >>= _) = _
      rw [isPut]
      rfl
  · exact List.cons_ne_nil _ _

/-- The line of an entry puts its value under its key. -/
theorem Draft.takes_entry {key : String} {text : String} {value : Value}
    (spells : Spells text.toList value) (isPut : draft.put [] key value = some next) :
    draft.Takes (writeEntry key text).toList next := by
  have line : (writeEntry key text).toList =
      keyText key.toList ++ ' ' :: '=' :: ' ' :: (text.toList ++ ['\n']) := by
    have parts : writeEntry key text = String.ofList (keyText key.toList) ++ " = " ++ text ++ "\n" :=
      rfl
    rw [parts]
    simp
  obtain ⟨first, more, same, starts⟩ := exists_keyText key.toList
  refine ⟨1, ?_, fun fuel rest => ?_⟩
  · rw [line, same]
    exact Nat.succ_le_succ (Nat.zero_le _)
  · have keyed := key?_keyText key.toList (' ' :: (text.toList ++ '\n' :: rest))
    have ahead : NotNext isSpace (text.toList ++ '\n' :: rest) := by
      cases chars : text.toList with
      | nil => rw [List.nil_append, notNext_cons]; rfl
      | cons c more =>
          have starts := spells.starts
          rw [chars] at starts
          exact starts
    rw [same, String.ofList_toList, List.cons_append] at keyed
    rw [line, same]
    simp only [List.cons_append, List.append_assoc, List.nil_append]
    exact readLines?_entry starts keyed ahead (spells.reads rest) isPut

theorem readLines?_header {fuel : Nat} {path : List String} {name : String} {text : List Char}
    (starts : startsKey c = true)
    (isKey : key? (c :: text) = some ((path, name), ']' :: '\n' :: rest))
    (isOpened : draft.openHeader path name = some next) :
    readLines? (fuel + 1) draft ('[' :: c :: text) = readLines? fuel next rest := by
  obtain ⟨notSpace, notBracket, -⟩ := startsKey_spec starts
  have bracket : dropSpaces ('[' :: c :: text) = '[' :: c :: text := rfl
  rw [readLines?, bracket]
  · split
    · next same => exact absurd (List.cons.inj (List.cons.inj same).2).1 notBracket
    · next same =>
        cases same
        rw [dropSpaces_of_notNext ((notNext_cons ..).mpr notSpace), isKey]
        change (draft.openHeader path name >>= _) = _
        rw [isOpened]
        rfl
    · next other => exact absurd rfl (other (c :: text))
  · exact List.cons_ne_nil _ _

/-- The line of a header opens its table. -/
theorem Draft.takes_header {path : List String} {name : String} (few : path.length < levelLimit)
    (bare : ∀ part ∈ path ++ [name], IsBareKey part)
    (isOpened : draft.openHeader path name = some next) :
    draft.Takes (writeHeader (path ++ [name])).toList next := by
  have line : (writeHeader (path ++ [name])).toList =
      '[' :: (dotted (path ++ [name]) ++ [']', '\n']) := by
    have parts : writeHeader (path ++ [name]) = "[" ++ ".".intercalate (path ++ [name]) ++ "]\n" :=
      rfl
    rw [parts]
    simp [String.toList_intercalate, dotted]
  refine ⟨1, ?_, fun fuel rest => ?_⟩
  · rw [line]
    exact Nat.succ_le_succ (Nat.zero_le _)
  · have isKey : keyParts? levelLimit (dotted (path ++ [name]) ++ ']' :: '\n' :: rest) =
        some ((path, name), ']' :: '\n' :: rest) := keyParts?_dotted few bare
    obtain ⟨c, more, same, isBare⟩ := exists_dotted (by simp) bare
    rw [same] at isKey line
    rw [line]
    simp only [List.cons_append, List.append_assoc, List.nil_append] at isKey ⊢
    exact readLines?_header (startsKey_of_isBareKeyChar isBare) isKey isOpened

/-! ## Entries and sections -/

inductive Lines : List Char → List (String × Value) → Prop where
  | nil : Lines [] []
  | entry {key text : String} {value : Value} :
      Spells text.toList value → Lines (writeEntry key text).toList [(key, value)]
  | append {text more : List Char} {entries others : List (String × Value)} :
      Lines text entries → Lines more others → Lines (text ++ more) (entries ++ others)

/-- Lines of entries fill the table that is open. -/
theorem Lines.takes {text : List Char} {entries : List (String × Value)} (lines : Lines text entries)
    {path : List String} {around : Table → Table} (leads : Table.Leads path around) {inner : Table}
    (isHeader : inner.origin = .header) (distinct : (Dictionary.keys entries).Nodup)
    (free : ∀ key ∈ Dictionary.keys entries, Dictionary.get? key inner.items = none) :
    Draft.Takes ⟨around inner, path⟩ text ⟨around (inner.fill entries), path⟩ := by
  induction lines generalizing inner with
  | nil => exact Draft.takes_nil _
  | entry spells => exact Draft.takes_entry spells (Draft.put_eq leads isHeader (free _ (by simp)))
  | append _ _ ih ihOthers =>
      rw [Dictionary.keys_append] at distinct free
      obtain ⟨distinctFirst, distinctOthers, apart⟩ := List.nodup_append.mp distinct
      have first := ih isHeader distinctFirst fun key isKey =>
        free key (List.mem_append_left _ isKey)
      rw [Table.fill_append]
      refine first.append (ihOthers ?_ distinctOthers fun key isKey => ?_)
      · rw [Table.origin_fill, isHeader]
      · rw [Table.get?_items_fill fun earlier => apart key earlier key isKey rfl]
        exact free key (List.mem_append_right _ isKey)

section

variable {root : Table} {name : String} {text : List Char} {entries : List (String × Value)}

/-- A section with its own entries. -/
theorem Draft.takes_section (current : List String) (bare : IsBareKey name)
    (free : Dictionary.get? name root.items = none) (lines : Lines text entries)
    (distinct : (Dictionary.keys entries).Nodup) :
    Draft.Takes ⟨root, current⟩ ((writeHeader [name]).toList ++ text)
      ⟨root.set name (.table (.ofEntries entries)), [name]⟩ := by
  have opened : Draft.openHeader ⟨root, current⟩ [] name =
      some ⟨root.set name (.table (.start .header)), [name]⟩ :=
    Draft.openHeader_eq Table.leads_nil current free
  refine (@Draft.takes_header _ _ [] _ (by decide) (by simpa using bare) opened).append ?_
  exact lines.takes (Table.leads_set root name) rfl distinct fun _ _ => rfl

/-- The table inside a section, behind a blank line. -/
theorem Draft.takes_subsection {inner : Table} {sub : String} (bare : IsBareKey name)
    (bareSub : IsBareKey sub) (free : Dictionary.get? sub inner.items = none)
    (lines : Lines text entries) (distinct : (Dictionary.keys entries).Nodup) :
    Draft.Takes ⟨root.set name (.table inner), [name]⟩
      ('\n' :: ((writeHeader [name, sub]).toList ++ text))
      ⟨root.set name (.table (inner.set sub (.table (Table.ofEntries entries)))),
        [name, sub]⟩ := by
  have leads := Table.leads_set root name
  have opened := Draft.openHeader_eq leads [name] free
  refine (Draft.takes_blank _).append ?_
  have header := @Draft.takes_header _ _ [name] _ (by simp [levelLimit])
    (by simpa using ⟨bare, bareSub⟩) opened
  refine header.append ?_
  exact lines.takes (leads.append (Table.leads_set inner sub)) rfl distinct fun _ _ => rfl

end

/-- The fuel of a document is enough for its lines. -/
theorem document?_of_takes {text : String}
    (takes : Draft.Takes ⟨.start .header, []⟩ text.toList draft)
    (noMark : text.toList.head? ≠ some '\uFEFF') :
    document? text = some (itemValues draft.root.items) := by
  obtain ⟨lines, few, taken⟩ := takes
  obtain ⟨fuel, enough⟩ : ∃ fuel, text.toList.length + 1 = fuel + 1 + lines :=
    ⟨text.toList.length - lines, by omega⟩
  have read := taken (fuel + 1) []
  rw [List.append_nil, ← enough] at read
  unfold document?
  dsimp only
  split
  · next same => exact absurd (congrArg List.head? same) noMark
  · rw [read]
    rfl

end OptionSchema.Toml
