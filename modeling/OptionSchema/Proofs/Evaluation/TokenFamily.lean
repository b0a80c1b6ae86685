import Mathlib.Data.List.Induction
import Mathlib.Data.List.Infix
import Mathlib.Logic.Relation
import OptionSchema.Proofs.Evaluation.Cancellation

/-!
# Families of tokens

Cloning connects tokens, and what is connected forms a family. Main statement: `run_cancelled_iff`.
Whatever has been done, a token is cancelled exactly if a token has been cancelled that clone steps
connect with it. What is connected and what has been cancelled is told from the steps alone; the
numbers and the flags of a pool keep track of both (`Tracks`).
-/

namespace OptionSchema.Evaluation

def TokenStep.makesToken : TokenStep → Bool
  | .new | .clone _ => true
  | .cancel _ => false

namespace TokenPool

/-! ## What has been done with tokens -/

def tokenCount (steps : List TokenStep) : Nat :=
  steps.countP TokenStep.makesToken + 1

def Clones (steps : List TokenStep) (token copy : Nat) : Prop :=
  ∃ before position, before ++ [.clone position] <+: steps ∧
    token = position % tokenCount before ∧ copy = tokenCount before

def Cancels (steps : List TokenStep) (token : Nat) : Prop :=
  ∃ before position, before ++ [.cancel position] <+: steps ∧ token = position % tokenCount before

/-- A chain of clones leads from one token to another, in whatever direction each of them was made. -/
def Connected (steps : List TokenStep) : Nat → Nat → Prop :=
  Relation.EqvGen (Clones steps)

def after (steps : List TokenStep) : TokenPool :=
  steps.foldl step start

variable {steps before : List TokenStep} {step : TokenStep} {pool : TokenPool}
  {token copy other first second : Nat}

theorem tokenCount_concat (steps : List TokenStep) (step : TokenStep) :
    tokenCount (steps ++ [step]) = tokenCount steps + if step.makesToken then 1 else 0 := by
  rw [tokenCount, tokenCount, List.countP_append, List.countP_singleton]
  omega

theorem lt_tokenCount_concat (made : step.makesToken = true) :
    tokenCount steps < tokenCount (steps ++ [step]) := by
  rw [tokenCount_concat, if_pos made]
  exact Nat.lt_succ_self _

theorem tokenCount_pos (steps : List TokenStep) : 0 < tokenCount steps :=
  Nat.succ_pos _

theorem tokenCount_le (earlier : before <+: steps) : tokenCount before ≤ tokenCount steps :=
  Nat.succ_le_succ earlier.sublist.countP_le

theorem mod_tokenCount_lt (position : Nat) : position % tokenCount steps < tokenCount steps :=
  Nat.mod_lt position (tokenCount_pos steps)

theorem Clones.mono (clones : Clones before token copy) (earlier : before <+: steps) :
    Clones steps token copy := by
  obtain ⟨front, position, stands, isToken, isCopy⟩ := clones
  exact ⟨front, position, stands.trans earlier, isToken, isCopy⟩

theorem Cancels.mono (cancels : Cancels before token) (earlier : before <+: steps) :
    Cancels steps token := by
  obtain ⟨front, position, stands, isToken⟩ := cancels
  exact ⟨front, position, stands.trans earlier, isToken⟩

theorem Connected.mono (connected : Connected before first second) (earlier : before <+: steps) :
    Connected steps first second :=
  Relation.EqvGen.mono (fun _ _ (clones : Clones before _ _) => clones.mono earlier) _ _ connected

theorem Cancels.lt (cancels : Cancels steps token) : token < tokenCount steps := by
  obtain ⟨front, position, stands, rfl⟩ := cancels
  exact (mod_tokenCount_lt position).trans_le
    (tokenCount_le ((List.prefix_append front _).trans stands))

/-- The copy is made by a step, so it is a token only behind that step. -/
theorem Clones.lt (clones : Clones steps token copy) :
    token < tokenCount steps ∧ copy < tokenCount steps := by
  obtain ⟨front, position, stands, rfl, rfl⟩ := clones
  have copied := (lt_tokenCount_concat rfl).trans_le (tokenCount_le stands)
  exact ⟨(mod_tokenCount_lt position).trans copied, copied⟩

theorem clones_concat_iff :
    Clones (steps ++ [step]) token copy ↔ Clones steps token copy ∨
      ∃ position, step = .clone position ∧ token = position % tokenCount steps ∧
        copy = tokenCount steps := by
  constructor
  · rintro ⟨front, position, stands, isToken, isCopy⟩
    rcases List.prefix_concat_iff.mp stands with same | earlier
    · obtain ⟨rfl, isStep⟩ := List.append_inj' same rfl
      exact .inr ⟨position, (List.singleton_inj.mp isStep).symm, isToken, isCopy⟩
    · exact .inl ⟨front, position, earlier, isToken, isCopy⟩
  · rintro (clones | ⟨position, rfl, isToken, isCopy⟩)
    · exact clones.mono (List.prefix_append steps [step])
    · exact ⟨steps, position, List.prefix_rfl, isToken, isCopy⟩

theorem cancels_concat_iff :
    Cancels (steps ++ [step]) token ↔ Cancels steps token ∨
      ∃ position, step = .cancel position ∧ token = position % tokenCount steps := by
  constructor
  · rintro ⟨front, position, stands, isToken⟩
    rcases List.prefix_concat_iff.mp stands with same | earlier
    · obtain ⟨rfl, isStep⟩ := List.append_inj' same rfl
      exact .inr ⟨position, (List.singleton_inj.mp isStep).symm, isToken⟩
    · exact .inl ⟨front, position, earlier, isToken⟩
  · rintro (cancels | ⟨position, rfl, isToken⟩)
    · exact cancels.mono (List.prefix_append steps [step])
    · exact ⟨steps, position, List.prefix_rfl, isToken⟩

/-- What each clone has in common with its original, connected tokens have in common. -/
theorem Connected.eq_of_clones {α : Type} {value : Nat → α}
    (same : ∀ token copy, Clones steps token copy → value token = value copy)
    (connected : Connected steps first second) : value first = value second := by
  induction connected with
  | rel token copy clones => exact same token copy clones
  | refl token => rfl
  | symm first second _ ih => exact ih.symm
  | trans first second third _ _ ih ih' => exact ih.trans ih'

/-- A connected token exists if the other one does. -/
theorem Connected.lt_iff (connected : Connected steps first second) :
    first < tokenCount steps ↔ second < tokenCount steps :=
  iff_of_eq (connected.eq_of_clones fun _ _ clones =>
    propext (iff_of_true clones.lt.1 clones.lt.2))

/-! ## What a pool keeps track of -/

/-- A pool has the tokens that some steps have left behind: their families are what is connected, and
the flags say which families have a token that has been cancelled. -/
structure Tracks (steps : List TokenStep) (pool : TokenPool) : Prop where
  length_eq : pool.families.length = tokenCount steps
  flagged : ∀ family ∈ pool.families, family < pool.flags.length
  family_eq_iff : ∀ first second, first < tokenCount steps → second < tokenCount steps →
    (pool.family first = pool.family second ↔ Connected steps first second)
  flag_iff : ∀ family < pool.flags.length, pool.flags.getD family false = true ↔
    ∃ token, Cancels steps token ∧ pool.family token = family

theorem tracks_start : Tracks [] start where
  length_eq := rfl
  flagged := by decide
  family_eq_iff first second isFirst isSecond := by
    obtain rfl : first = 0 := Nat.lt_one_iff.mp isFirst
    obtain rfl : second = 0 := Nat.lt_one_iff.mp isSecond
    exact iff_of_true rfl (.refl 0)
  flag_iff family isFamily := by
    obtain rfl : family = 0 := Nat.lt_one_iff.mp isFamily
    refine iff_of_false Bool.false_ne_true ?_
    rintro ⟨token, ⟨front, position, stands, -⟩, -⟩
    exact List.append_ne_nil_of_right_ne_nil front (List.cons_ne_nil _ _) (List.prefix_nil.mp stands)

theorem Tracks.holds (tracks : Tracks steps pool) (isToken : token < tokenCount steps) :
    pool.Holds token :=
  ⟨tracks.flagged, tracks.length_eq ▸ isToken⟩

theorem Tracks.family_lt (tracks : Tracks steps pool) (isToken : token < tokenCount steps) :
    pool.family token < pool.flags.length :=
  (tracks.holds isToken).family_lt

theorem Tracks.family_mod (tracks : Tracks steps pool) (position : Nat) :
    pool.family (position % tokenCount steps) = pool.family position := by
  rw [family, family, tracks.length_eq, Nat.mod_mod]

theorem Tracks.family_step (tracks : Tracks steps pool) (isToken : token < tokenCount steps)
    (step : TokenStep) : (pool.step step).family token = pool.family token :=
  (tracks.holds isToken).family_step step

theorem Tracks.length_step (tracks : Tracks steps pool) (step : TokenStep) :
    (pool.step step).families.length = tokenCount (steps ++ [step]) := by
  rw [tokenCount_concat, ← tracks.length_eq]
  cases step with
  | new | clone position => exact List.length_append
  | cancel position => rfl

/-- The token that a step makes: a new one starts a family, and a clone joins one. -/
theorem Tracks.family_made (tracks : Tracks steps pool) :
    (pool.step .new).family (tokenCount steps) = pool.flags.length ∧
      ∀ position, (pool.step (.clone position)).family (tokenCount steps) = pool.family position := by
  have last (family : Nat) (flags : List Bool) :
      TokenPool.family ⟨pool.families ++ [family], flags⟩ (tokenCount steps) = family := by
    rw [← tracks.length_eq, family_eq (by simp)]
    simp
  exact ⟨last _ _, fun position => last _ _⟩

/-- Connected tokens stay in one family. -/
theorem Tracks.family_eq_of_connected (tracks : Tracks steps pool)
    (connected : Connected (steps ++ [step]) first second) :
    (pool.step step).family first = (pool.step step).family second := by
  refine connected.eq_of_clones fun token copy clones => ?_
  rcases clones_concat_iff.mp clones with old | ⟨position, rfl, rfl, rfl⟩
  · rw [tracks.family_step old.lt.1, tracks.family_step old.lt.2]
    exact (tracks.family_eq_iff _ _ old.lt.1 old.lt.2).mpr (.rel _ _ old)
  · rw [tracks.family_step (mod_tokenCount_lt position), tracks.family_mod]
    exact (tracks.family_made.2 position).symm

/-- A token that a step makes is connected with the tokens of its family: with none if it is new, and
by way of its original if it is a clone. -/
theorem Tracks.connected_made (tracks : Tracks steps pool) (made : step.makesToken = true)
    (isToken : token < tokenCount steps)
    (same : (pool.step step).family (tokenCount steps) = (pool.step step).family token) :
    Connected (steps ++ [step]) (tokenCount steps) token := by
  rw [tracks.family_step isToken] at same
  cases step with
  | new =>
      rw [tracks.family_made.1] at same
      exact absurd same (Nat.ne_of_gt (tracks.family_lt isToken))
  | clone position =>
      rw [tracks.family_made.2, ← tracks.family_mod] at same
      have original := (tracks.family_eq_iff _ _ (mod_tokenCount_lt position) isToken).mp same
      have clones : Clones (steps ++ [.clone position]) (position % tokenCount steps)
          (tokenCount steps) :=
        clones_concat_iff.mpr (.inr ⟨position, rfl, rfl, rfl⟩)
      exact .trans _ _ _ (.symm _ _ (.rel _ _ clones))
        (original.mono (List.prefix_append steps _))
  | cancel position => cases made

theorem Tracks.family_eq_iff_step (tracks : Tracks steps pool) (step : TokenStep)
    (isFirst : first < tokenCount (steps ++ [step])) (isSecond : second < tokenCount (steps ++ [step])) :
    (pool.step step).family first = (pool.step step).family second ↔
      Connected (steps ++ [step]) first second := by
  refine ⟨fun same => ?_, tracks.family_eq_of_connected⟩
  have kinds (token : Nat) (isToken : token < tokenCount (steps ++ [step])) :
      token < tokenCount steps ∨ token = tokenCount steps ∧ step.makesToken = true := by
    rw [tokenCount_concat] at isToken
    split at isToken
    · next made => exact (Nat.lt_succ_iff_lt_or_eq.mp isToken).imp_right (⟨·, made⟩)
    · exact .inl isToken
  rcases kinds first isFirst with oldFirst | ⟨rfl, made⟩
  · rcases kinds second isSecond with oldSecond | ⟨rfl, made⟩
    · rw [tracks.family_step oldFirst, tracks.family_step oldSecond] at same
      exact ((tracks.family_eq_iff _ _ oldFirst oldSecond).mp same).mono
        (List.prefix_append steps _)
    · exact .symm _ _ (tracks.connected_made made oldFirst same.symm)
  · rcases kinds second isSecond with oldSecond | ⟨rfl, -⟩
    · exact tracks.connected_made made oldSecond same
    · exact .refl _

theorem Tracks.flag_iff_step (tracks : Tracks steps pool) (step : TokenStep) {family : Nat}
    (isFamily : family < (pool.step step).flags.length) :
    (pool.step step).flags.getD family false = true ↔
      ∃ token, Cancels (steps ++ [step]) token ∧ (pool.step step).family token = family := by
  have old : (∃ token, Cancels steps token ∧ (pool.step step).family token = family) ↔
      ∃ token, Cancels steps token ∧ pool.family token = family :=
    exists_congr fun token => and_congr_right fun cancels => by
      rw [tracks.family_step cancels.lt]
  have new : (∃ token, (∃ position, step = .cancel position ∧ token = position % tokenCount steps) ∧
      (pool.step step).family token = family) ↔
      ∃ position, step = .cancel position ∧ pool.family position = family := by
    constructor
    · rintro ⟨token, ⟨position, isStep, rfl⟩, same⟩
      rw [tracks.family_step (mod_tokenCount_lt position), tracks.family_mod] at same
      exact ⟨position, isStep, same⟩
    · rintro ⟨position, isStep, same⟩
      refine ⟨_, ⟨position, isStep, rfl⟩, ?_⟩
      rw [tracks.family_step (mod_tokenCount_lt position), tracks.family_mod, same]
  simp only [cancels_concat_iff, or_and_right, exists_or, old, new]
  by_cases known : family < pool.flags.length
  · rw [← tracks.flag_iff family known]
    exact flag_step known step
  -- A family that the step has started has one token, and that one is fresh.
  · cases step with
    | new =>
        rw [TokenPool.step, List.length_append, List.length_singleton] at isFamily
        obtain rfl : family = pool.flags.length := by omega
        refine iff_of_false (by simp [TokenPool.step]) ?_
        rintro (⟨token, cancels, same⟩ | ⟨position, differ, -⟩)
        · exact absurd same (Nat.ne_of_lt (tracks.family_lt cancels.lt))
        · cases differ
    | clone position => exact absurd isFamily known
    | cancel position =>
        rw [TokenPool.step, List.length_set] at isFamily
        exact absurd isFamily known

/-- Every step is kept track of. -/
theorem Tracks.concat (tracks : Tracks steps pool) (step : TokenStep) :
    Tracks (steps ++ [step]) (pool.step step) where
  length_eq := tracks.length_step step
  flagged := ((tracks.holds (tokenCount_pos steps)).afterStep step).flagged
  family_eq_iff _ _ := tracks.family_eq_iff_step step
  flag_iff _ := tracks.flag_iff_step step

theorem tracks_after (steps : List TokenStep) : Tracks steps (after steps) := by
  induction steps using List.reverseRecOn with
  | nil => exact tracks_start
  | append_singleton steps step ih =>
      rw [after, List.foldl_append]
      exact ih.concat step

/-! ## What tokens report -/

/-- A run goes through what the initial segments of its steps lead to. -/
theorem cons_run_eq (pool : TokenPool) (steps : List TokenStep) :
    pool :: pool.run steps = steps.inits.map (·.foldl TokenPool.step pool) := by
  induction steps generalizing pool with
  | nil => rfl
  | cons step rest ih =>
      rw [run, ih, List.inits_cons, List.map_cons, List.map_map]
      rfl

theorem length_cancelled : (after steps).cancelled.length = tokenCount steps := by
  rw [cancelled, List.length_map]
  exact (tracks_after steps).length_eq

theorem getElem?_cancelled (isToken : token < tokenCount steps) :
    (after steps).cancelled[token]? = some ((after steps).isCancelled token) := by
  have tracks := tracks_after steps
  have inside : token < (after steps).families.length := tracks.length_eq ▸ isToken
  rw [cancelled, List.getElem?_map, List.getElem?_eq_getElem inside, isCancelled, family_eq inside]
  rfl

theorem isCancelled_iff (isToken : token < tokenCount steps) :
    (after steps).isCancelled token = true ↔
      ∃ other, Connected steps token other ∧ Cancels steps other := by
  have tracks := tracks_after steps
  rw [isCancelled, tracks.flag_iff _ (tracks.family_lt isToken)]
  constructor
  · rintro ⟨other, cancels, same⟩
    exact ⟨other, (tracks.family_eq_iff _ _ isToken cancels.lt).mp same.symm, cancels⟩
  · rintro ⟨other, connected, cancels⟩
    exact ⟨other, cancels, ((tracks.family_eq_iff _ _ isToken cancels.lt).mpr connected).symm⟩

/-- What is connected with a cancelled token is a token, so no bound is needed. -/
theorem cancelled_eq_some_true_iff :
    (after steps).cancelled[token]? = some true ↔
      ∃ other, Connected steps token other ∧ Cancels steps other := by
  by_cases isToken : token < tokenCount steps
  · rw [getElem?_cancelled isToken, Option.some_inj, isCancelled_iff isToken]
  · have outside : (after steps).cancelled[token]? = none :=
      List.getElem?_eq_none (length_cancelled ▸ Nat.le_of_not_lt isToken)
    rw [outside]
    refine iff_of_false nofun ?_
    rintro ⟨other, connected, cancels⟩
    exact isToken (connected.lt_iff.mpr cancels.lt)

theorem cancelled_eq_of_connected (connected : Connected steps first second) :
    (after steps).cancelled[first]? = (after steps).cancelled[second]? := by
  by_cases isToken : first < tokenCount steps
  · have tracks := tracks_after steps
    have same := (tracks.family_eq_iff _ _ isToken (connected.lt_iff.mp isToken)).mpr connected
    rw [getElem?_cancelled isToken, getElem?_cancelled (connected.lt_iff.mp isToken), isCancelled,
      isCancelled, same]
  · have outside (token : Nat) (apart : ¬ token < tokenCount steps) :
        (after steps).cancelled[token]? = none :=
      List.getElem?_eq_none (length_cancelled ▸ Nat.le_of_not_lt apart)
    rw [outside first isToken, outside second (mt connected.lt_iff.mpr isToken)]

/-- No step connects tokens that were there before it. -/
theorem connected_concat_iff (isFirst : first < tokenCount steps)
    (isSecond : second < tokenCount steps) :
    Connected (steps ++ [step]) first second ↔ Connected steps first second := by
  have tracks := tracks_after steps
  refine ⟨fun connected => ?_, fun connected => connected.mono (List.prefix_append steps _)⟩
  have same := tracks.family_eq_of_connected connected
  rw [tracks.family_step isFirst, tracks.family_step isSecond] at same
  exact (tracks.family_eq_iff _ _ isFirst isSecond).mp same

theorem connected_append_iff (more : List TokenStep) (isFirst : first < tokenCount steps)
    (isSecond : second < tokenCount steps) :
    Connected (steps ++ more) first second ↔ Connected steps first second := by
  induction more using List.reverseRecOn with
  | nil => rw [List.append_nil]
  | append_singleton more step ih =>
      have later := tokenCount_le (List.prefix_append steps more)
      rw [← List.append_assoc, connected_concat_iff (isFirst.trans_le later)
        (isSecond.trans_le later), ih]

/-- A new token is never connected with those that were there before it. -/
theorem not_connected_new (more : List TokenStep) (isOther : other < tokenCount steps) :
    ¬ Connected (steps ++ .new :: more) (tokenCount steps) other := by
  have made : tokenCount steps < tokenCount (steps ++ [.new]) := lt_tokenCount_concat rfl
  rw [List.append_cons, connected_append_iff more made (isOther.trans made)]
  intro connected
  have tracks := tracks_after steps
  have same := tracks.family_eq_of_connected connected
  rw [tracks.family_made.1, tracks.family_step isOther] at same
  exact Nat.ne_of_gt (tracks.family_lt isOther) same

/-- After any steps a token is cancelled exactly if one of the steps has cancelled a token that clones
connect with it, whichever came first. So the tokens of a family agree; a new token is connected with
none that was there before, and is not cancelled; a clone of a cancelled token is cancelled, and a
cancelled token stays so. -/
theorem run_cancelled_iff (steps : List TokenStep) :
    start :: start.run steps = steps.inits.map after ∧
    (after steps).cancelled.length = tokenCount steps ∧
    (∀ token, (after steps).cancelled[token]? = some true ↔
      ∃ other, Connected steps token other ∧ Cancels steps other) ∧
    (∀ first second, Connected steps first second →
      (after steps).cancelled[first]? = (after steps).cancelled[second]?) ∧
    (∀ before more, steps = before ++ .new :: more → ∀ other < tokenCount before,
      ¬ Connected steps (tokenCount before) other) ∧
    (∀ before, steps = before ++ [.new] →
      (after steps).cancelled[tokenCount before]? = some false) ∧
    (∀ token copy, Clones steps token copy → (after steps).cancelled[token]? = some true →
      (after steps).cancelled[copy]? = some true) ∧
    ∀ (before : List TokenStep) (token : Nat), before <+: steps →
      (after before).cancelled[token]? = some true →
      (after steps).cancelled[token]? = some true := by
  refine ⟨cons_run_eq start steps, length_cancelled, fun token => cancelled_eq_some_true_iff,
    fun first second => cancelled_eq_of_connected, ?_, ?_, ?_, ?_⟩
  · rintro before more rfl other isOther
    exact not_connected_new more isOther
  · intro before isFresh
    subst isFresh
    have made : tokenCount before < tokenCount (before ++ [.new]) := lt_tokenCount_concat rfl
    rw [getElem?_cancelled made, Option.some_inj, Bool.eq_false_iff, ne_eq, isCancelled_iff made]
    rintro ⟨other, connected, cancels⟩
    rcases cancels_concat_iff.mp cancels with earlier | ⟨position, differ, -⟩
    · exact not_connected_new [] earlier.lt connected
    · cases differ
  · intro token copy clones isCancelled
    rw [← cancelled_eq_of_connected (.rel token copy clones), isCancelled]
  · intro before token earlier isCancelled
    obtain ⟨other, connected, cancels⟩ := cancelled_eq_some_true_iff.mp isCancelled
    exact cancelled_eq_some_true_iff.mpr
      ⟨other, connected.mono earlier, cancels.mono earlier⟩

/-- A token is cloned, another one is made, the clone is cancelled and the first one cloned again. -/
def clonedSteps : List TokenStep :=
  [.clone 0, .new, .cancel 1, .clone 0]

theorem run_cancelled_clonedSteps :
    Clones clonedSteps 0 1 ∧ Clones clonedSteps 0 3 ∧ Cancels clonedSteps 1 ∧
      Connected clonedSteps 3 1 ∧ (after clonedSteps).cancelled[3]? = some true ∧
      (after clonedSteps).cancelled[3]? = (after clonedSteps).cancelled[0]? ∧
      ¬ Connected clonedSteps 2 0 ∧
      (after [.clone 0, .new]).cancelled[2]? = some false := by
  have firstClone : Clones clonedSteps 0 1 := ⟨[], 0, by decide, rfl, rfl⟩
  have secondClone : Clones clonedSteps 0 3 := ⟨[.clone 0, .new, .cancel 1], 0, by decide, rfl, rfl⟩
  have cancels : Cancels clonedSteps 1 := ⟨[.clone 0, .new], 1, by decide, rfl⟩
  have connected : Connected clonedSteps 3 1 :=
    .trans _ _ _ (.symm _ _ (.rel _ _ secondClone)) (.rel _ _ firstClone)
  obtain ⟨-, -, reports, agree, apart, -⟩ := run_cancelled_iff clonedSteps
  obtain ⟨-, -, -, -, -, fresh, -⟩ := run_cancelled_iff [.clone 0, .new]
  exact ⟨firstClone, secondClone, cancels, connected, (reports 3).mpr ⟨1, connected, cancels⟩,
    agree 3 0 (.symm _ _ (.rel _ _ secondClone)),
    apart [.clone 0] [.cancel 1, .clone 0] rfl 0 (by decide), fresh [.clone 0] rfl⟩

end TokenPool

end OptionSchema.Evaluation
