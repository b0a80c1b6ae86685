import OptionSchema.Json.Layout
import OptionSchema.Proofs.Dictionary
import OptionSchema.Proofs.Json.Escape
import OptionSchema.Proofs.Json.Tree
import OptionSchema.Proofs.Outcome

/-!
# What is laid out can be taken apart

Arrays and objects in a layout are well formed if their parts are, and they still have the items and
the entries that they were made of (`map_content_padItems`, `entries_padMembers`).
-/

namespace OptionSchema.Json

variable {layout : Layout} {depth : Nat}

/-! ## The entries of an object -/

def entries (members : List (Padded (List Char) × Padded Tree)) :
    Except ReadError (List (String × Tree)) :=
  members.mapM fun member => (readString member.1.content).map (·, member.2.content)

theorem entries_nil {found : List (String × Tree)} : entries [] = .ok found ↔ found = [] := by
  unfold entries
  rw [List.mapM_nil, Outcome.pure_eq_ok]
  exact eq_comm

theorem entries_cons {key : Padded (List Char)} {value : Padded Tree}
    {rest : List (Padded (List Char) × Padded Tree)} {found : List (String × Tree)} :
    entries ((key, value) :: rest) = .ok found ↔ ∃ name others, readString key.content = .ok name ∧
      entries rest = .ok others ∧ found = (name, value.content) :: others := by
  unfold entries
  simp only [List.mapM_cons, Outcome.bind_eq_ok, Outcome.map_eq_ok, Outcome.pure_eq_ok]
  constructor
  · rintro ⟨_, ⟨name, read, rfl⟩, others, readOthers, rfl⟩
    exact ⟨name, others, read, readOthers, rfl⟩
  · rintro ⟨name, others, read, readOthers, rfl⟩
    exact ⟨_, ⟨name, read, rfl⟩, others, readOthers, rfl⟩

/-- A member of an object is one of its entries. -/
theorem mem_of_entries {members : List (Padded (List Char) × Padded Tree)}
    {found : List (String × Tree)} (read : entries members = .ok found) {entry : String × Tree}
    (member : entry ∈ found) :
    ∃ written ∈ members, readString written.1.content = .ok entry.1 ∧
      written.2.content = entry.2 := by
  induction members generalizing found with
  | nil =>
      rw [entries_nil.mp read] at member
      cases member
  | cons first rest ih =>
      obtain ⟨key, value⟩ := first
      obtain ⟨name, others, readKey, readOthers, rfl⟩ := entries_cons.mp read
      rcases List.mem_cons.mp member with rfl | later
      · exact ⟨(key, value), by simp, readKey, rfl⟩
      · obtain ⟨written, isMember, same⟩ := ih readOthers later
        exact ⟨written, List.mem_cons_of_mem _ isMember, same⟩

/-- An object has entries if its keys can be read. -/
theorem exists_entries_iff {members : List (Padded (List Char) × Padded Tree)} :
    (∃ found, entries members = .ok found) ↔
      ∀ member ∈ members, ∃ name, readString member.1.content = .ok name := by
  simp only [entries, Outcome.mapM_eq_ok, Outcome.exists_results_iff, Outcome.map_eq_ok]
  refine forall₂_congr fun member _ => ?_
  constructor
  · rintro ⟨_, name, read, -⟩
    exact ⟨name, read⟩
  · rintro ⟨name, read⟩
    exact ⟨_, name, read, rfl⟩

/-- What holds of the trees of all entries holds of those of all members. -/
theorem forall_entries_iff {members : List (Padded (List Char) × Padded Tree)}
    {found : List (String × Tree)} (read : entries members = .ok found) (property : Tree → Prop) :
    (∀ entry ∈ found, property entry.2) ↔ ∀ member ∈ members, property member.2.content := by
  induction members generalizing found with
  | nil =>
      rw [entries_nil.mp read]
      exact iff_of_true nofun nofun
  | cons member rest ih =>
      obtain ⟨key, value⟩ := member
      obtain ⟨name, others, -, readOthers, rfl⟩ := entries_cons.mp read
      rw [List.forall_mem_cons, List.forall_mem_cons, ih readOthers]

/-- The last member with a name stands among the others, and can be replaced. -/
theorem exists_last_member {members : List (Padded (List Char) × Padded Tree)}
    {found : List (String × Tree)} {name : String} {child : Tree}
    (read : entries members = .ok found)
    (isLast : Dictionary.get? name (Dictionary.ofPairs found) = some child) :
    ∃ before key gap gap' after foundBefore foundAfter,
      members = before ++ (key, ⟨gap, child, gap'⟩) :: after ∧
      found = foundBefore ++ (name, child) :: foundAfter ∧ name ∉ Dictionary.keys foundAfter ∧
      ∀ child', entries (before ++ (key, ⟨gap, child', gap'⟩) :: after) =
        .ok (foundBefore ++ (name, child') :: foundAfter) := by
  induction members generalizing found with
  | nil =>
      rw [entries_nil.mp read] at isLast
      cases isLast
  | cons member rest ih =>
      obtain ⟨key, gap, tree, gap'⟩ := member
      obtain ⟨first, others, readKey, readOthers, rfl⟩ := entries_cons.mp read
      rw [Dictionary.get?_ofPairs_cons] at isLast
      cases again : Dictionary.get? name (Dictionary.ofPairs others) with
      | some other =>
          rw [again, Option.some_or, Option.some.injEq] at isLast
          subst isLast
          obtain ⟨before, key', gap₁, gap₂, after, foundBefore, foundAfter, rfl, rfl, last, replaced⟩ :=
            ih readOthers again
          exact ⟨(key, ⟨gap, tree, gap'⟩) :: before, key', gap₁, gap₂, after,
            (first, tree) :: foundBefore, foundAfter, rfl, rfl, last, fun child' =>
              entries_cons.mpr ⟨first, _, readKey, replaced child', rfl⟩⟩
      | none =>
          rw [again, Option.none_or] at isLast
          split at isLast
          · next same =>
              cases isLast
              cases same
              have last : first ∉ Dictionary.keys others := fun isKey =>
                Dictionary.get?_eq_none_iff.mp again (Dictionary.mem_keys_ofPairs.mpr isKey)
              exact ⟨[], key, gap, gap', rest, [], others, rfl, rfl, last, fun child' =>
                entries_cons.mpr ⟨first, others, readKey, readOthers, rfl⟩⟩
          · cases isLast

/-! ## Taking layouts apart -/

@[simp] theorem map_content_padItems (items : List Tree) :
    (layout.padItems depth items).map Padded.content = items := by
  fun_induction Layout.padItems layout depth items with
  | case1 => rfl
  | case2 => rfl
  | case3 item rest _ ih => rw [List.map_cons, ih]

theorem padItems_ne_nil {items : List Tree} (some' : items ≠ []) :
    layout.padItems depth items ≠ [] := by
  intro none
  have same : (layout.padItems depth items).map Padded.content = items := map_content_padItems items
  rw [none] at same
  exact some' same.symm

@[simp] theorem entries_padMembers (members : List (String × Tree)) :
    entries (layout.padMembers depth members) = .ok members := by
  induction members with
  | nil => rfl
  | cons member rest ih =>
      obtain ⟨name, tree⟩ := member
      exact entries_cons.mpr ⟨name, rest, readString_escape name, ih, rfl⟩

@[simp] theorem length_padMembers (members : List (String × Tree)) :
    (layout.padMembers depth members).length = members.length := by
  induction members with
  | nil => rfl
  | cons member rest ih => rw [Layout.padMembers, List.length_cons, List.length_cons, ih]

theorem padMembers_ne_nil {members : List (String × Tree)} (some' : members ≠ []) :
    layout.padMembers depth members ≠ [] := by
  rw [← List.length_pos_iff, length_padMembers]
  exact List.length_pos_iff.mpr some'

/-! ## Layouts are well formed -/

theorem all_isGap_lineBreak (layout : Layout) (depth : Nat) :
    (layout.lineBreak depth).all isGap = true := by
  cases layout with
  | compact => rfl
  | indented => simp [Layout.lineBreak, isGap]

theorem all_isGap_afterColon (layout : Layout) : layout.afterColon.all isGap = true := by
  cases layout <;> rfl

theorem wellFormed_array {items : List Tree} (wellFormed : ∀ item ∈ items, item.wellFormed = true) :
    (layout.array depth items).wellFormed = true := by
  have padded : ∀ item ∈ layout.padItems depth items, item.isPadded = true := by
    fun_induction Layout.padItems layout depth items with
    | case1 => simp
    | case2 item =>
        intro padded member
        rw [List.mem_singleton.mp member, Padded.isPadded, all_isGap_lineBreak,
          all_isGap_lineBreak]
        rfl
    | case3 item rest _ ih =>
        rw [List.forall_mem_cons] at wellFormed ⊢
        refine ⟨?_, ih wellFormed.2⟩
        rw [Padded.isPadded, all_isGap_lineBreak]
        rfl
  have parts : itemsWellFormed (layout.padItems depth items) = true := by
    refine itemsWellFormed_iff.mpr fun item member => ⟨padded item member, ?_⟩
    have same : (layout.padItems depth items).map Padded.content = items :=
      map_content_padItems items
    apply wellFormed
    rw [← same]
    exact List.mem_map_of_mem member
  simp [Layout.array, Tree.wellFormed, parts]

theorem wellFormed_object {members : List (String × Tree)}
    (wellFormed : ∀ member ∈ members, member.2.wellFormed = true) :
    (layout.object depth members).wellFormed = true := by
  have parts : membersWellFormed (layout.padMembers depth members) = true := by
    rw [membersWellFormed_iff]
    induction members with
    | nil => simp [Layout.padMembers]
    | cons member rest ih =>
        obtain ⟨name, tree⟩ := member
        rw [List.forall_mem_cons] at wellFormed
        rw [Layout.padMembers, List.forall_mem_cons]
        refine ⟨⟨?_, isStringBody_escape _, ?_, wellFormed.1⟩, ih wellFormed.2⟩
        · rw [Padded.isPadded, all_isGap_lineBreak]
          rfl
        · rw [Padded.isPadded, all_isGap_afterColon]
          cases rest with
          | nil => exact all_isGap_lineBreak layout depth
          | cons => rfl
  simp [Layout.object, Tree.wellFormed, parts]

theorem wellFormed_string (text : String) : (Layout.string text).wellFormed = true :=
  isStringBody_escape text.toList

end OptionSchema.Json
