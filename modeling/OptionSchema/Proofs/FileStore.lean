import Mathlib.Data.List.Basic
import OptionSchema.FileStore
import OptionSchema.Proofs.Outcome

/-!
# Files that have been written

A file that is written is found again where its path leads: writing it changes no directory, and no
path leads through a file.
-/

namespace OptionSchema.FileStore

variable {store store' : FileStore} {directory place : List String} {path : String} {bytes : ByteArray}

/-- The place of a file is one that its path leads to, and has no directory. -/
theorem fileAt_eq_ok (found : store.fileAt directory path = .ok place) :
    store.resolve directory path = .ok place ∧ store.isDirectory place = false := by
  unfold fileAt at found
  dsimp only at found
  split at found
  · cases found
  · split at found
    · obtain ⟨-, -, thrown⟩ := Outcome.bind_eq_ok.mp found
      cases thrown
    · obtain ⟨reached, resolved, found⟩ := Outcome.bind_eq_ok.mp found
      split at found
      · cases found
      · next notDirectory =>
          split at found
          · cases found
          · cases found
            exact ⟨resolved, Bool.eq_false_iff.mpr notDirectory⟩

@[simp] theorem read?_put_self (store : FileStore) (place : List String) (bytes : ByteArray) :
    (store.put place bytes).read? place = some bytes := by
  simp [put, read?]

theorem read?_put_other {other : List String} (apart : other ≠ place) :
    (store.put place bytes).read? other = store.read? other := by
  have filtered (files : List (List String × ByteArray)) :
      (files.filter (·.1 != place)).lookup other = files.lookup other := by
    induction files with
    | nil => rfl
    | cons file files ih =>
        by_cases same : file.1 = place
        · rw [List.filter_cons_of_neg (by simpa using same), List.lookup_cons, ih,
            beq_eq_false_iff_ne.mpr (same ▸ apart)]
        · rw [List.filter_cons_of_pos (by simpa using same), List.lookup_cons, List.lookup_cons, ih]
  rw [put, read?, List.lookup_cons, beq_eq_false_iff_ne.mpr apart]
  exact filtered store.files

/-- A path goes on in directories only. -/
theorem isDirectory_of_stepInto {name : String} {next : List String}
    (stepped : store.stepInto directory name = .ok next) : store.isDirectory directory = true := by
  unfold stepInto at stepped
  split at stepped
  · cases stepped
  · split at stepped
    · cases stepped
    · next isDirectory => simpa using isDirectory

theorem stepInto_put {name : String} {next : List String} (apart : directory ≠ place)
    (stepped : store.stepInto directory name = .ok next) :
    (store.put place bytes).stepInto directory name = .ok next := by
  unfold stepInto at stepped ⊢
  rw [read?_put_other apart]
  exact stepped

/-- A file does not change where its path leads. -/
theorem resolve_put (resolved : store.resolve directory path = .ok place)
    (notDirectory : store.isDirectory place = false) (bytes : ByteArray) :
    (store.put place bytes).resolve directory path = .ok place := by
  have steps (names : List String) : ∀ start, names.foldlM store.stepInto start = .ok place →
      names.foldlM (store.put place bytes).stepInto start = .ok place := by
    induction names with
    | nil => exact fun _ stepped => stepped
    | cons name names ih =>
        intro start stepped
        rw [List.foldlM_cons] at stepped ⊢
        obtain ⟨next, first, others⟩ := Outcome.bind_eq_ok.mp stepped
        -- a path that goes through the place would go through a file
        have apart : start ≠ place := by
          rintro rfl
          rw [isDirectory_of_stepInto first] at notDirectory
          cases notDirectory
        rw [stepInto_put apart first, Outcome.ok_bind]
        exact ih next others
  unfold resolve at resolved ⊢
  dsimp only at resolved ⊢
  split at resolved
  · cases resolved
  · exact steps _ _ resolved

end OptionSchema.FileStore
