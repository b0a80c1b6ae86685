import Mathlib.Data.List.Nodup
import OptionSchema.Codegen.Emitter

/-!
# Claims of identifiers

A walk claims identifiers one after the other, each in a scope and for a source. `collision?` is the
collision at the first claim that comes too late, if there is one. It depends on the order of the
claims only where two of them clash: there is a collision exactly if the targets of the claims
repeat (`collision?_eq_none_iff`), and it is at the first claim whose target an earlier one has
(`collision?_eq_some_iff`).
-/

namespace OptionSchema.Codegen

structure Claim where
  scope : ScopeName
  identifier : String
  source : String
  deriving DecidableEq

/-- What a claim is for: no other claim may be for the same. -/
def Claim.target (claim : Claim) : ScopeName × String :=
  (claim.scope, claim.identifier)

def targets (claims : List Claim) : List (ScopeName × String) :=
  claims.map Claim.target

def Claim.collision (claim first : Claim) : Collision :=
  ⟨claim.scope, claim.identifier, first.source, claim.source⟩

/-- The collision at the first claim whose target is taken, by one of the claims in `taken` or by an
earlier one of the list. -/
def collision? (taken : List Claim) : List Claim → Option Collision
  | [] => none
  | claim :: rest =>
      match taken.find? fun first => first.target = claim.target with
      | some first => some (claim.collision first)
      | none => collision? (claim :: taken) rest

variable {taken claims first second before : List Claim} {claim : Claim} {collision : Collision}

@[simp] theorem targets_nil : targets [] = [] :=
  rfl

@[simp] theorem targets_cons : targets (claim :: claims) = claim.target :: targets claims :=
  rfl

@[simp] theorem targets_append : targets (first ++ second) = targets first ++ targets second :=
  List.map_append

theorem target_mem_targets (member : claim ∈ claims) : claim.target ∈ targets claims :=
  List.mem_map_of_mem member

@[simp] theorem collision?_nil : collision? taken [] = none :=
  rfl

theorem find?_target_eq_none_iff :
    (taken.find? fun first => first.target = claim.target) = none ↔
      claim.target ∉ targets taken := by
  simp [targets]

theorem collision?_cons_of_not_mem (free : claim.target ∉ targets taken) :
    collision? taken (claim :: claims) = collision? (claim :: taken) claims := by
  rw [collision?, find?_target_eq_none_iff.mpr free]

/-- A walk goes on where another one has ended. -/
theorem collision?_append :
    collision? taken (first ++ second) =
      (collision? taken first).or (collision? (first.reverse ++ taken) second) := by
  induction first generalizing taken with
  | nil => rfl
  | cons claim rest ih =>
      rw [List.cons_append, collision?, collision?]
      cases taken.find? fun first => first.target = claim.target with
      | some first => rfl
      | none => simp [ih]

/-- There is no collision exactly if no target is claimed twice. -/
theorem collision?_eq_none_iff :
    collision? taken claims = none ↔
      (targets claims).Nodup ∧ ∀ claim ∈ claims, claim.target ∉ targets taken := by
  induction claims generalizing taken with
  | nil => simp
  | cons claim rest ih =>
      rw [collision?]
      cases found : taken.find? fun first => first.target = claim.target with
      | some first =>
          have used : claim.target ∈ targets taken := by
            rw [← Decidable.not_not (p := claim.target ∈ targets taken),
              ← find?_target_eq_none_iff, found]
            exact Option.some_ne_none first
          simp only [reduceCtorEq, List.forall_mem_cons, used, not_true_eq_false, false_and,
            and_false]
      | none =>
          have free : claim.target ∉ targets taken := find?_target_eq_none_iff.mp found
          simp only [ih, targets_cons, List.nodup_cons, List.forall_mem_cons]
          constructor
          · rintro ⟨nodup, apart⟩
            refine ⟨⟨fun again => ?_, nodup⟩, free, fun other member used => ?_⟩
            · obtain ⟨other, member, same⟩ := List.mem_map.mp again
              exact apart other member (same ▸ List.mem_cons_self ..)
            · exact apart other member (List.mem_cons_of_mem _ used)
          · rintro ⟨⟨fresh, nodup⟩, -, apart⟩
            refine ⟨nodup, fun other member used => ?_⟩
            rcases List.mem_cons.mp used with same | used
            · exact fresh (same ▸ target_mem_targets member)
            · exact apart other member used

theorem collision?_nil_eq_none_iff : collision? [] claims = none ↔ (targets claims).Nodup := by
  simp [collision?_eq_none_iff]

/-- A collision is at a claim before which no target is claimed twice, with the claim that has taken
the target. -/
theorem collision?_eq_some_iff :
    collision? taken claims = some collision ↔
      ∃ before claim after, claims = before ++ claim :: after ∧ collision? taken before = none ∧
        ((before.reverse ++ taken).find? fun first => first.target = claim.target).map
          claim.collision = some collision := by
  induction claims generalizing taken with
  | nil => simp
  | cons claim rest ih =>
      rw [collision?]
      cases found : taken.find? fun first => first.target = claim.target with
      | some first =>
          constructor
          · intro same
            refine ⟨[], claim, rest, rfl, rfl, ?_⟩
            simp only [List.reverse_nil, List.nil_append, found, Option.map_some]
            exact same
          · rintro ⟨before, claim', after, same, none, collides⟩
            cases before with
            | nil =>
                cases same
                simp only [List.reverse_nil, List.nil_append, found, Option.map_some] at collides
                exact collides
            | cons head before =>
                cases same
                simp [collision?, found] at none
      | none =>
          have free : claim.target ∉ targets taken := find?_target_eq_none_iff.mp found
          rw [ih]
          constructor
          · rintro ⟨before, claim', after, rfl, none, collides⟩
            refine ⟨claim :: before, claim', after, rfl, ?_, ?_⟩
            · rw [collision?_cons_of_not_mem free, none]
            · simpa using collides
          · rintro ⟨before, claim', after, same, none, collides⟩
            cases before with
            | nil =>
                cases same
                simp only [List.reverse_nil, List.nil_append, found, Option.map_none] at collides
                cases collides
            | cons head before =>
                cases same
                rw [collision?_cons_of_not_mem free] at none
                exact ⟨before, claim', after, rfl, none, by simpa using collides⟩

/-- The claim that has taken a target is the only one for it. -/
theorem collision?_nil_eq_some_iff :
    collision? [] claims = some collision ↔
      ∃ before claim after first, claims = before ++ claim :: after ∧ (targets before).Nodup ∧
        first ∈ before ∧ first.target = claim.target ∧ collision = claim.collision first := by
  rw [collision?_eq_some_iff]
  refine exists_congr fun before => exists_congr fun claim => exists_congr fun after => ?_
  simp only [List.append_nil, collision?_nil_eq_none_iff, Option.map_eq_some_iff]
  constructor
  · rintro ⟨same, nodup, first, found, rfl⟩
    have member := List.mem_reverse.mp (List.mem_of_find?_eq_some found)
    have clash := List.find?_some found
    exact ⟨first, same, nodup, member, of_decide_eq_true clash, rfl⟩
  · rintro ⟨first, same, nodup, member, clash, rfl⟩
    refine ⟨same, nodup, first, ?_, rfl⟩
    cases found : before.reverse.find? fun first => first.target = claim.target with
    | none =>
        have absent := List.find?_eq_none.mp found first (List.mem_reverse.mpr member)
        exact absurd (decide_eq_true clash) absent
    | some other =>
        have clash' : other.target = claim.target := by simpa using List.find?_some found
        have member' := List.mem_reverse.mp (List.mem_of_find?_eq_some found)
        have same := clash'.trans clash.symm
        exact congrArg some (List.inj_on_of_nodup_map nodup member' member same)

end OptionSchema.Codegen
