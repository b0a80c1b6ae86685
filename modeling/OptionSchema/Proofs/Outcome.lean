import Mathlib.Data.List.Forall2

/-!
# When a computation that can fail succeeds

Readers are sequences of readings, the first failure of which is the failure of the whole. These
laws take a success apart into the successes of its parts, and find the part that failed.
-/

namespace OptionSchema.Outcome

variable {α β ε ε' : Type} {x : Except ε α}

theorem ok_bind (a : α) (f : α → Except ε β) : (Except.ok a >>= f) = f a :=
  rfl

theorem bind_eq_ok {f : α → Except ε β} {b : β} :
    (x >>= f) = .ok b ↔ ∃ a, x = .ok a ∧ f a = .ok b := by
  cases x <;> simp [bind, Except.bind]

theorem map_eq_ok {f : α → β} {b : β} : x.map f = .ok b ↔ ∃ a, x = .ok a ∧ f a = b := by
  cases x <;> simp [Except.map]

theorem mapError_eq_ok {f : ε → ε'} {a : α} : x.mapError f = .ok a ↔ x = .ok a := by
  cases x <;> simp [Except.mapError]

theorem bind_eq_error {f : α → Except ε β} {e : ε} :
    (x >>= f) = .error e ↔ x = .error e ∨ ∃ a, x = .ok a ∧ f a = .error e := by
  cases x <;> simp [bind, Except.bind]

theorem map_eq_error {f : α → β} {e : ε} : x.map f = .error e ↔ x = .error e := by
  cases x <;> simp [Except.map]

theorem mapError_eq_error {f : ε → ε'} {e : ε'} :
    x.mapError f = .error e ↔ ∃ cause, x = .error cause ∧ f cause = e := by
  cases x <;> simp [Except.mapError]

theorem pure_eq_ok {a b : α} : (pure a : Except ε α) = .ok b ↔ a = b := by
  simp [pure, Except.pure]

theorem mapError_bind (f : α → Except ε β) (g : ε → ε') :
    (x >>= f).mapError g = x.mapError g >>= fun a => (f a).mapError g := by
  cases x <;> rfl

theorem mapError_map (f : α → β) (g : ε → ε') : (x.map f).mapError g = (x.mapError g).map f := by
  cases x <;> rfl

/-- A list is read if all its items are, each as the item in its place of the result. -/
theorem mapM_eq_ok {f : α → Except ε β} {items : List α} {results : List β} :
    items.mapM f = .ok results ↔ List.Forall₂ (fun item result => f item = .ok result) items results := by
  induction items generalizing results with
  | nil => cases results <;> simp [pure_eq_ok]
  | cons item rest ih =>
      simp only [List.mapM_cons, bind_eq_ok, pure_eq_ok, ih, List.forall₂_cons_left_iff]
      constructor
      · rintro ⟨result, first, others, later, rfl⟩
        exact ⟨result, others, first, later, rfl⟩
      · rintro ⟨result, others, first, later, rfl⟩
        exact ⟨result, first, others, later, rfl⟩

/-- A list is not read if one of its items is not, and the first such item says why. -/
theorem mapM_eq_error {f : α → Except ε β} {items : List α} {e : ε} :
    items.mapM f = .error e ↔ ∃ before item after, items = before ++ item :: after ∧
      (∀ first ∈ before, ∃ b, f first = .ok b) ∧ f item = .error e := by
  induction items with
  | nil => simp [pure, Except.pure]
  | cons item rest ih =>
      simp only [List.mapM_cons, bind_eq_error, ih]
      constructor
      · rintro (fails | ⟨b, reads, ⟨before, failing, after, rfl, earlier, fails⟩ |
          ⟨results, -, never⟩⟩)
        · exact ⟨[], item, rest, rfl, List.forall_mem_nil _, fails⟩
        · exact ⟨item :: before, failing, after, rfl,
            List.forall_mem_cons.mpr ⟨⟨b, reads⟩, earlier⟩, fails⟩
        · cases never
      · rintro ⟨before, failing, after, split, earlier, fails⟩
        cases before with
        | nil =>
            cases split
            exact .inl fails
        | cons first before =>
            cases split
            obtain ⟨⟨b, reads⟩, earlier⟩ := List.forall_mem_cons.mp earlier
            exact .inr ⟨b, reads, .inl ⟨before, failing, after, rfl, earlier, fails⟩⟩

/-- Every result comes from an item. -/
theorem exists_item {related : α → β → Prop} {items : List α} {results : List β}
    (matched : List.Forall₂ related items results) {result : β} (member : result ∈ results) :
    ∃ item ∈ items, related item result := by
  induction matched with
  | nil => cases member
  | cons same _ ih =>
      rcases List.mem_cons.mp member with rfl | later
      · exact ⟨_, List.mem_cons_self .., same⟩
      · obtain ⟨item, isItem, same⟩ := ih later
        exact ⟨item, List.mem_cons_of_mem _ isItem, same⟩

/-- Every item has a result. -/
theorem exists_result {related : α → β → Prop} {items : List α} {results : List β}
    (matched : List.Forall₂ related items results) {item : α} (member : item ∈ items) :
    ∃ result ∈ results, related item result :=
  exists_item (List.Forall₂.flip matched) member

/-- There is a list of results if every item has a result. -/
theorem exists_results_iff {related : α → β → Prop} {items : List α} :
    (∃ results, List.Forall₂ related items results) ↔ ∀ item ∈ items, ∃ result, related item result := by
  constructor
  · rintro ⟨results, matched⟩ item member
    obtain ⟨result, -, same⟩ := exists_result matched member
    exact ⟨result, same⟩
  · intro each
    induction items with
    | nil => exact ⟨[], .nil⟩
    | cons item rest ih =>
        rw [List.forall_mem_cons] at each
        obtain ⟨result, first⟩ := each.1
        obtain ⟨others, later⟩ := ih each.2
        exact ⟨result :: others, .cons first later⟩

/-- Results that are mapped like their items are mapped alike as lists. -/
theorem map_results_eq {γ : Type} {related : α → β → Prop} {f : α → γ} {g : β → γ} {items : List α}
    {results : List β} (matched : List.Forall₂ related items results)
    (same : ∀ item ∈ items, ∀ result, related item result → g result = f item) :
    results.map g = items.map f := by
  induction matched with
  | nil => rfl
  | cons head _ ih =>
      rw [List.forall_mem_cons] at same
      rw [List.map_cons, List.map_cons, same.1 _ head, ih same.2]

/-- If every item is its own result, so is the list. -/
theorem results_eq {related : α → α → Prop} {items results : List α}
    (matched : List.Forall₂ related items results)
    (own : ∀ item ∈ items, ∀ result, related item result → result = item) : results = items := by
  induction matched with
  | nil => rfl
  | cons same _ ih =>
      rw [List.forall_mem_cons] at own
      rw [own.1 _ same, ih own.2]

/-- One item may be replaced by another that is related to the same result. -/
theorem forall₂_replace {related : α → β → Prop} {before after : List α} {first second : α}
    {results : List β} (replaces : ∀ result, related first result → related second result)
    (matched : List.Forall₂ related (before ++ first :: after) results) :
    List.Forall₂ related (before ++ second :: after) results := by
  induction before generalizing results with
  | nil =>
      cases matched with
      | cons holds others => exact .cons (replaces _ holds) others
  | cons item rest ih =>
      cases matched with
      | cons holds others => exact .cons holds (ih others)

theorem forall₂_congr {related related' : α → β → Prop} {items : List α} {results : List β}
    (same : ∀ item ∈ items, ∀ result, related item result ↔ related' item result) :
    List.Forall₂ related items results ↔ List.Forall₂ related' items results := by
  induction items generalizing results with
  | nil => simp
  | cons item rest ih =>
      rw [List.forall_mem_cons] at same
      simp only [List.forall₂_cons_left_iff, same.1, ih same.2]

theorem forall₂_imp_of_mem {related related' : α → β → Prop} {items : List α} {results : List β}
    (weaker : ∀ item ∈ items, ∀ result, related item result → related' item result)
    (matched : List.Forall₂ related items results) : List.Forall₂ related' items results :=
  ((List.forall₂_and_left items results).mpr ⟨weaker, matched⟩).imp fun _ result both =>
    both.1 result both.2

/-- A computation that never succeeds fails. -/
theorem eq_error_of_forall_ne (never : ∀ a, x ≠ .ok a) : ∃ e, x = .error e := by
  cases x with
  | error e => exact ⟨e, rfl⟩
  | ok a => exact absurd rfl (never a)

end OptionSchema.Outcome
