import OptionSchema.Proofs.Wire.Position

/-!
# Replacing a part of a document

The steps that lead to a part of a document also say where another part is put in its place. Main
statements: `ReplacedAt.isModule` and `StandsAt.fits`. If the new part is read as the old one is, so
is the whole document. What is put in the place of a part may have any text, and the text around it
stays.
-/

namespace OptionSchema.Wire

open Dictionary (keys ofPairs valuesOf)
open Json (Padded Tree)

variable {found found' : List (String × Tree)} {tree tree' child child' part part' source : Tree}
  {name : String} {step : Step} {steps : List Step}

/-! ## Entries that differ in one name -/

/-- Entries that have the same values under all names but one. -/
def AgreeBut (name : String) (found found' : List (String × Tree)) : Prop :=
  ∀ other, name ≠ other → valuesOf other found' = valuesOf other found

/-- An entry in the middle changes the values under its own name only. -/
theorem agreeBut_middle {before after : List (String × Tree)} {value : Tree} :
    AgreeBut name (before ++ after) (before ++ (name, value) :: after) :=
  fun _ apart => Dictionary.valuesOf_middle_other apart

section

variable (agree : AgreeBut name found found')

include agree

theorem AgreeBut.get? {other : String} (apart : name ≠ other) :
    Dictionary.get? other (ofPairs found') = Dictionary.get? other (ofPairs found) := by
  rw [Dictionary.get?_ofPairs, Dictionary.get?_ofPairs, agree other apart]

section

variable (notOption : name ≠ "_option") (notType : name ≠ "_type")

include notOption

theorem AgreeBut.sayOption_iff : SayOption found' ↔ SayOption found := by
  unfold SayOption
  rw [agree _ notOption]

include notType

theorem AgreeBut.isEnvelope_iff {envelope : Envelope} :
    IsEnvelope found' envelope ↔ IsEnvelope found envelope := by
  constructor
  · rintro ⟨isOption, tag⟩
    rw [agree _ notOption] at isOption
    rw [agree _ notType] at tag
    exact ⟨isOption, tag⟩
  · rintro ⟨isOption, tag⟩
    rw [← agree _ notOption] at isOption
    rw [← agree _ notType] at tag
    exact ⟨isOption, tag⟩

omit notOption in
theorem AgreeBut.sayTag {tag : Tag} (sayTag : SayTag found tag) : SayTag found' tag := by
  unfold SayTag
  rw [agree _ notType]
  exact sayTag

end

theorem AgreeBut.isDoc {doc : Doc} (other : ∀ field : DocField, name ≠ field.name)
    (isDoc : IsDoc found doc) : IsDoc found' doc := by
  intro field
  rw [agree _ (other field)]
  exact isDoc field

/-- A kind that has a payload or is a scalar is told from its own field alone. -/
theorem AgreeBut.isKind {kind : Kind} (specified : kind.tag ≠ .unspecified)
    (other : payloadField? kind.tag ≠ some name) (isKind : IsKind source found kind) :
    IsKind tree found' kind := by
  cases isKind with
  | scalar scalar => exact .scalar scalar
  | unspecified => exact absurd rfl specified
  | payload isField isLast isPayload =>
      have apart : name ≠ _ := fun same => other (same ▸ isField)
      exact .payload isField ((agree.get? apart).trans isLast) isPayload

end

/-! ## Replacing -/

def SwapsEntry (name : String) (child child' tree tree' : Tree) : Prop :=
  ∃ before after, HasEntries tree (before ++ (name, child) :: after) ∧
    HasEntries tree' (before ++ (name, child') :: after) ∧ name ∉ keys after

def SwapsItem (index : Nat) (child child' tree tree' : Tree) : Prop :=
  ∃ gap items gap' items' before after, tree = .array gap items ∧ tree' = .array gap' items' ∧
    items.map Padded.content = before ++ child :: after ∧
    items'.map Padded.content = before ++ child' :: after ∧ before.length = index

/-- Where a step leads to in a tree, another tree stands in the other. -/
inductive Swaps : Step → Tree → Tree → Tree → Tree → Prop where
  | member {child child' tree tree' : Tree} {found : List (String × Tree)} {name : String} :
      HasEntries tree found → ¬ SayOption found → SwapsEntry name child child' tree tree' →
      Swaps (.member name) child child' tree tree'
  | inner {child child' tree tree' : Tree} {wrapper : Wrapper} :
      IsTagged tree (.wrapped wrapper) → SwapsEntry wrapper.name child child' tree tree' →
      Swaps .inner child child' tree tree'
  | alternative {child child' list list' tree tree' : Tree} {index : Nat} :
      IsTagged tree .either → SwapsEntry "either" list list' tree tree' →
      SwapsItem index child child' list list' → Swaps (.alternative index) child child' tree tree'
  | content {child child' contents contents' tree tree' : Tree} {name : String} :
      IsTagged tree .submodule → SwapsEntry "submodule" contents contents' tree tree' →
      SwapsEntry name child child' contents contents' → Swaps (.content name) child child' tree tree'

/-- At a position below a tree another part stands in the other tree. -/
inductive Replaces : List Step → Tree → Tree → Tree → Tree → Prop where
  | here {part part' : Tree} : Replaces [] part part' part part'
  | step {step : Step} {steps : List Step} {part part' child child' tree tree' : Tree} :
      Swaps step child child' tree tree' → Replaces steps part part' child child' →
      Replaces (step :: steps) part part' tree tree'

def ReplacedAt (name : String) (steps : List Step) (part part' tree tree' : Tree) : Prop :=
  ∃ child child', SwapsEntry name child child' tree tree' ∧ Replaces steps part part' child child'

/-! ## What is read after replacing -/

def Carries (tree tree' : Tree) : Prop :=
  ∀ node, IsNode tree node → IsNode tree' node

/-- What is replaced is the last entry with its name, and other entries stay. -/
theorem SwapsEntry.exists_entries (swaps : SwapsEntry name child child' tree tree') :
    ∃ found found', HasEntries tree found ∧ HasEntries tree' found' ∧
      AgreeBut name found found' ∧ keys found = keys found' ∧
      Dictionary.get? name (ofPairs found) = some child ∧
      Dictionary.get? name (ofPairs found') = some child' := by
  obtain ⟨before, after, has, has', last⟩ := swaps
  refine ⟨_, _, has, has', fun other apart => ?_, ?_, Dictionary.get?_ofPairs_middle_self last,
    Dictionary.get?_ofPairs_middle_self last⟩
  · rw [Dictionary.valuesOf_middle_other apart, Dictionary.valuesOf_middle_other apart]
  · simp

/-- Members are read as before if the one that has been replaced is. -/
theorem isMembers_of_agree (agree : AgreeBut name found found') (same : keys found = keys found')
    (isLast : Dictionary.get? name (ofPairs found) = some child)
    (isLast' : Dictionary.get? name (ofPairs found') = some child') (carries : Carries child child')
    {contents : Module} (isMembers : IsMembers found contents) : IsMembers found' contents := by
  have sameKeys : keys (ofPairs found') = keys contents.members := by
    rw [← isMembers.keys_eq]
    exact Dictionary.keys_ofPairs_eq (by rw [same])
  refine Dictionary.matched_of_get? (Dictionary.ascending_ofPairs found') sameKeys ?_
  intro other tree node isEntry isMember
  have denoted {tree : Tree} (isEntry : Dictionary.get? other (ofPairs found) = some tree) :
      IsNode tree node := by
    obtain ⟨node', isMember', isNode⟩ := isMembers.get?_left isEntry
    rw [isMember, Option.some.injEq] at isMember'
    exact isMember' ▸ isNode
  by_cases isReplaced : name = other
  · subst isReplaced
    rw [isLast', Option.some.injEq] at isEntry
    exact isEntry ▸ carries node (denoted isLast)
  · rw [agree.get? isReplaced] at isEntry
    exact denoted isEntry

/-- A module is read as before if the member that has been replaced is. -/
theorem SwapsEntry.isModule (swaps : SwapsEntry name child child' tree tree')
    (carries : Carries child child') {contents : Module} (isModule : IsModule tree contents) :
    IsModule tree' contents := by
  obtain ⟨found, found', has, ⟨gap', members', rfl, read'⟩, agree, same, isLast, isLast'⟩ :=
    swaps.exists_entries
  obtain ⟨gap, members, others, rfl, read, isMembers⟩ := isModule_iff.mp isModule
  obtain rfl := has.eq ⟨gap, members, rfl, read⟩
  exact isModule_iff.mpr ⟨gap', members', found', rfl, read',
    isMembers_of_agree agree same isLast isLast' carries isMembers⟩

/-- An option is read as before if the payload that has been replaced is. -/
theorem carries_of_payload {tag : Tag} {field : String} (tagged : IsTagged tree tag)
    (isField : payloadField? tag = some field) (swaps : SwapsEntry field child child' tree tree')
    (payload : ∀ kind, kind.tag = tag → IsPayload child kind → IsPayload child' kind) :
    Carries tree tree' := by
  have notOption : field ≠ "_option" := fun same => (payloadField?_ne_envelope tag).1 (same ▸ isField)
  have notType : field ≠ "_type" := fun same => (payloadField?_ne_envelope tag).2 (same ▸ isField)
  have notDoc : ∀ other : DocField, field ≠ other.name :=
    fun other same => payloadField?_ne_docField tag other (same ▸ isField)
  obtain ⟨found, found', has, ⟨gap', members', rfl, read'⟩, agree, -, isLast, isLast'⟩ :=
    swaps.exists_entries
  obtain ⟨others, has', sayOption, sayTag⟩ := tagged
  obtain rfl := has.eq has'
  intro node isNode
  obtain ⟨gap, members, others, rfl, read, denotes⟩ := isNode_iff.mp isNode
  obtain rfl := has.eq ⟨gap, members, rfl, read⟩
  obtain ⟨doc, kind, rfl, rfl, isKind, isDoc⟩ := (denotes_iff_of_sayTag sayOption sayTag).mp denotes
  have isKind' : IsKind (.object gap' members') found' kind :=
    .payload isField isLast' (payload kind rfl (isKind.payload_of_get? isField isLast))
  exact isNode_iff.mpr ⟨gap', members', found', rfl, read',
    (denotes_iff_of_sayTag ((agree.sayOption_iff notOption).mpr sayOption)
      (agree.sayTag notType sayTag)).mpr ⟨doc, kind, rfl, rfl, isKind', agree.isDoc notDoc isDoc⟩⟩

theorem SwapsItem.isAlternatives {index : Nat} {list list' : Tree} {nodes : List Node}
    (swaps : SwapsItem index child child' list list') (carries : Carries child child')
    (isAlternatives : IsAlternatives list nodes) : IsAlternatives list' nodes := by
  obtain ⟨gap, items, gap', items', before, after, rfl, rfl, same, same', -⟩ := swaps
  obtain ⟨_, _, isArray, matched⟩ := isAlternatives
  cases isArray
  rw [same] at matched
  refine ⟨gap', items', rfl, ?_⟩
  rw [same']
  exact Outcome.forall₂_replace carries matched

theorem Once.exists_of_getLast? {α : Type} {read : Tree → Except Json.ReadError α} {trees : List Tree}
    {result : Option α} (once : Once read trees result) (last : trees.getLast? = some tree) :
    ∃ value, read tree = .ok value := by
  cases once with
  | absent => cases last
  | present readTree =>
      cases last
      exact ⟨_, readTree⟩

/-- A member that is read as a node is no field of an envelope. -/
theorem IsEnvelope.ne_of_isNode {envelope : Envelope} {node : Node}
    (isEnvelope : IsEnvelope found envelope)
    (isLast : Dictionary.get? name (ofPairs found) = some child) (isNode : IsNode child node) :
    name ≠ "_option" ∧ name ≠ "_type" := by
  obtain ⟨gap, members, -, rfl, -⟩ := isNode_iff.mp isNode
  rw [Dictionary.get?_ofPairs] at isLast
  constructor
  · rintro rfl
    obtain ⟨value, read⟩ := isEnvelope.isOption.exists_of_getLast? isLast
    exact readBool_object_ne gap members value read
  · rintro rfl
    obtain ⟨value, read⟩ := isEnvelope.tag.exists_of_getLast? isLast
    exact readOptionalText_object_ne gap members value read

/-- A bare module is read as before if the member that has been replaced is. -/
theorem carries_of_member (has : HasEntries tree found) (notOption : ¬ SayOption found)
    (swaps : SwapsEntry name child child' tree tree') (carries : Carries child child') :
    Carries tree tree' := by
  obtain ⟨others, found', has', ⟨gap', members', rfl, read'⟩, agree, same, isLast, isLast'⟩ :=
    swaps.exists_entries
  obtain rfl := has.eq has'
  intro node isNode
  obtain ⟨gap, members, others, rfl, read, denotes⟩ := isNode_iff.mp isNode
  obtain rfl := has.eq ⟨gap, members, rfl, read⟩
  cases denotes with
  | unknown isEnvelope isOption => exact absurd (isEnvelope.isOption_iff.mp isOption) notOption
  | known isEnvelope isOption => exact absurd (isEnvelope.isOption_iff.mp isOption) notOption
  | module isEnvelope notSaid isMembers =>
      obtain ⟨child, -, isChild⟩ := exists_member isMembers isLast
      obtain ⟨noFlag, noTag⟩ := isEnvelope.ne_of_isNode isLast isChild
      exact isNode_iff.mpr ⟨gap', members', found', rfl, read',
        .module ((agree.isEnvelope_iff noFlag noTag).mpr isEnvelope) notSaid
          (isMembers_of_agree agree same isLast isLast' carries isMembers)⟩

/-- What a step leads to may be replaced by what is read alike. -/
theorem Swaps.carries (swaps : Swaps step child child' tree tree') (carries : Carries child child') :
    Carries tree tree' := by
  cases swaps with
  | member has notOption swaps => exact carries_of_member has notOption swaps carries
  | inner tagged swaps =>
      refine carries_of_payload tagged rfl swaps fun kind isTag isPayload => ?_
      cases isPayload with
      | wrapped isNode => exact .wrapped (carries _ isNode)
      | _ => cases isTag
  | alternative tagged swaps item =>
      refine carries_of_payload tagged rfl swaps fun kind isTag isPayload => ?_
      cases isPayload with
      | either isAlternatives => exact .either (item.isAlternatives carries isAlternatives)
      | _ => cases isTag
  | content tagged swaps member =>
      refine carries_of_payload tagged rfl swaps fun kind isTag isPayload => ?_
      cases isPayload with
      | submodule isModule => exact .submodule (member.isModule carries isModule)
      | _ => cases isTag

/-- A part at any position may be replaced by what is read alike; by induction on the position. -/
theorem Replaces.carries (replaces : Replaces steps part part' tree tree')
    (carries : Carries part part') : Carries tree tree' := by
  induction replaces with
  | here => exact carries
  | step swaps _ ih => exact swaps.carries (ih carries)

theorem ReplacedAt.isModule (replaced : ReplacedAt name steps part part' tree tree')
    (carries : Carries part part') {contents : Module} (isModule : IsModule tree contents) :
    IsModule tree' contents := by
  obtain ⟨child, child', swaps, replaces⟩ := replaced
  exact swaps.isModule (replaces.carries carries) isModule

/-! ## Texts around a part -/

/-- Any other part can be put in the place of a part of a tree, and the text around it stays. -/
structure Fits (replaced : Tree → Tree → Prop) (part tree : Tree) : Prop where
  wellFormed : part.wellFormed = true
  around : ∃ front back, tree.text = front ++ part.text ++ back ∧
    ∀ part', part'.wellFormed = true → ∃ tree', replaced part' tree' ∧ tree'.wellFormed = true ∧
      tree'.text = front ++ part'.text ++ back

theorem Fits.imp {replaced replaced' : Tree → Tree → Prop} (fits : Fits replaced part tree)
    (weaker : ∀ part' tree', replaced part' tree' → replaced' part' tree') :
    Fits replaced' part tree := by
  obtain ⟨wellFormed, front, back, same, fits⟩ := fits
  refine ⟨wellFormed, front, back, same, fun part' wellFormed' => ?_⟩
  obtain ⟨tree', isReplaced, rest⟩ := fits part' wellFormed'
  exact ⟨tree', weaker part' tree' isReplaced, rest⟩

/-- A part of a part is a part of the whole. -/
theorem Fits.trans {inner outer replaced : Tree → Tree → Prop} (first : Fits inner part child)
    (second : Fits outer child tree)
    (both : ∀ part' child' tree', inner part' child' → outer child' tree' → replaced part' tree') :
    Fits replaced part tree := by
  obtain ⟨wellFormed, front, back, same, fits⟩ := first
  obtain ⟨-, front', back', same', fits'⟩ := second
  refine ⟨wellFormed, front' ++ front, back ++ back', ?_, fun part' wellFormed' => ?_⟩
  · rw [same', same]
    simp only [List.append_assoc]
  · obtain ⟨child', isInner, wellFormedChild, sameChild⟩ := fits part' wellFormed'
    obtain ⟨tree', isOuter, wellFormedTree, sameTree⟩ := fits' child' wellFormedChild
    refine ⟨tree', both part' child' tree' isInner isOuter, wellFormedTree, ?_⟩
    rw [sameTree, sameChild]
    simp only [List.append_assoc]

theorem HasEntry.fits (isEntry : HasEntry tree name child) (wellFormed : tree.wellFormed = true) :
    Fits (fun child' tree' => SwapsEntry name child child' tree tree') child tree := by
  obtain ⟨found, ⟨gap, members, rfl, read⟩, isLast⟩ := isEntry
  obtain ⟨before, key, gap₁, gap₂, after, foundBefore, foundAfter, rfl, rfl, last, replaced⟩ :=
    Json.exists_last_member read isLast
  obtain ⟨front, back, same⟩ := Json.exists_membersText_around before after key gap₁ gap₂
  obtain ⟨ofChild, ofOther⟩ := Json.wellFormed_object_middle wellFormed
  refine ⟨ofChild, '{' :: gap ++ front, back ++ ['}'], ?_, fun child' ofChild' =>
    ⟨_, ⟨foundBefore, foundAfter, ⟨gap, _, rfl, read⟩, ⟨gap, _, rfl, replaced child'⟩, last⟩,
      ofOther child' ofChild', ?_⟩⟩
  · rw [Tree.text, same]
    simp only [List.append_assoc]
  · rw [Tree.text, same]
    simp only [List.append_assoc]

theorem fits_item {gap : List Char} {items : List (Padded Tree)} {index : Nat} {item : Padded Tree}
    (isItem : items[index]? = some item) (wellFormed : (Tree.array gap items).wellFormed = true) :
    Fits (fun child' list' => SwapsItem index item.content child' (.array gap items) list')
      item.content (.array gap items) := by
  obtain ⟨gap₁, child, gap₂⟩ := item
  obtain ⟨bound, isAt⟩ := List.getElem?_eq_some_iff.mp isItem
  have split : items = items.take index ++ ⟨gap₁, child, gap₂⟩ :: items.drop (index + 1) := by
    rw [← isAt, List.getElem_cons_drop, List.take_append_drop]
  have isIndex : (items.take index).length = index := List.length_take_of_le bound.le
  generalize items.take index = before at split isIndex
  generalize items.drop (index + 1) = after at split
  subst split isIndex
  obtain ⟨front, back, same⟩ := Json.exists_itemsText_around before after gap₁ gap₂
  obtain ⟨ofChild, ofOther⟩ := Json.wellFormed_array_middle wellFormed
  refine ⟨ofChild, '[' :: gap ++ front, back ++ [']'], ?_, fun child' ofChild' =>
    ⟨_, ⟨gap, _, gap, _, before.map Padded.content, after.map Padded.content, rfl, rfl, by simp,
      by rw [List.map_append, List.map_cons], List.length_map _⟩, ofOther child' ofChild', ?_⟩⟩
  · rw [Tree.text, same]
    simp only [List.append_assoc]
  · rw [Tree.text, same]
    simp only [List.append_assoc]

/-- What a step leads to can be replaced. -/
theorem Leads.fits (leads : Leads step tree child) (wellFormed : tree.wellFormed = true) :
    Fits (fun child' tree' => Swaps step child child' tree tree') child tree := by
  cases leads with
  | member has notOption isEntry =>
      exact (isEntry.fits wellFormed).imp fun child' tree' swaps => .member has notOption swaps
  | inner tagged isEntry =>
      exact (isEntry.fits wellFormed).imp fun child' tree' swaps => .inner tagged swaps
  | alternative tagged isEntry isItem =>
      have ofList := isEntry.fits wellFormed
      exact (fits_item isItem ofList.wellFormed).trans ofList fun child' list' tree' item swaps =>
        .alternative tagged swaps item
  | content tagged isEntry isContent =>
      have ofContents := isEntry.fits wellFormed
      exact (isContent.fits ofContents.wellFormed).trans ofContents
        fun child' contents' tree' member swaps => .content tagged swaps member

/-- What is reached from a tree can be replaced; by induction on the position. -/
theorem Reaches.fits (reaches : Reaches steps tree part) (wellFormed : tree.wellFormed = true) :
    Fits (fun part' tree' => Replaces steps part part' tree tree') part tree := by
  induction reaches with
  | here =>
      refine ⟨wellFormed, [], [], ?_, fun part' wellFormed' => ⟨part', .here, wellFormed', ?_⟩⟩
      · rw [List.nil_append, List.append_nil]
      · rw [List.nil_append, List.append_nil]
  | step leads _ ih =>
      have ofChild := leads.fits wellFormed
      exact (ih ofChild.wellFormed).trans ofChild fun part' child' tree' replaces swaps =>
        .step swaps replaces

/-- What stands at a position of a document can be replaced. -/
theorem StandsAt.fits (stands : StandsAt tree name steps part) (wellFormed : tree.wellFormed = true) :
    Fits (fun part' tree' => ReplacedAt name steps part part' tree tree') part tree := by
  obtain ⟨child, isEntry, reaches⟩ := stands
  have ofChild := isEntry.fits wellFormed
  exact (reaches.fits ofChild.wellFormed).trans ofChild fun part' child' tree' replaces swaps =>
    ⟨child, child', swaps, replaces⟩

end OptionSchema.Wire
