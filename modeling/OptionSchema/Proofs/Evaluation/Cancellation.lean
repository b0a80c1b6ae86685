import Mathlib.Data.List.Basic
import OptionSchema.Evaluation.CancelToken
import OptionSchema.Proofs.Evaluation.Sequence
import OptionSchema.Proofs.Outcome

/-!
# Evaluations that are cancelled

A cancellation is noticed before anything has been started, and otherwise only by a look at a program
that is still running. Main statement: `outcome_cancelled`. The evaluation takes the course that it
takes without the cancellation, up to and with the first program that is found running after it.
Programs that end before they are looked at do not notice it, and others are started after them. A
token is cancelled as soon as a token of its family is (`TokenPool.cancelTime?_eq_some`).
-/

namespace OptionSchema.Evaluation

/-! ## Tokens -/

namespace TokenPool

variable {pool : TokenPool} {step : TokenStep} {token time : Nat} {history : List (Nat × TokenStep)}

/-- Every family has a flag, and every number of a token is one of the pool. -/
structure Holds (pool : TokenPool) (token : Nat) : Prop where
  flagged : ∀ family ∈ pool.families, family < pool.flags.length
  isToken : token < pool.families.length

def isCancelled (pool : TokenPool) (token : Nat) : Bool :=
  pool.flags.getD (pool.family token) false

/-- The time at which a token is first cancelled, by what is done with tokens and when. -/
def cancelTime? (pool : TokenPool) (token : Nat) : List (Nat × TokenStep) → Option Nat
  | [] => none
  | (time, step) :: rest =>
      if (pool.step step).isCancelled token then some time
      else (pool.step step).cancelTime? token rest

inductive CancelsFirst (token time : Nat) : TokenPool → List (Nat × TokenStep) → Prop where
  | now {pool : TokenPool} {other : Nat} {rest : List (Nat × TokenStep)} :
      pool.family other = pool.family token →
      CancelsFirst token time pool ((time, .cancel other) :: rest)
  | later {pool : TokenPool} {earlier : Nat} {step : TokenStep} {rest : List (Nat × TokenStep)} :
      (∀ other, step = .cancel other → pool.family other ≠ pool.family token) →
      CancelsFirst token time (pool.step step) rest →
      CancelsFirst token time pool ((earlier, step) :: rest)

theorem family_eq (isToken : token < pool.families.length) :
    pool.family token = pool.families[token] := by
  rw [family, Nat.mod_eq_of_lt isToken, List.getD_eq_getElem?_getD, List.getElem?_eq_getElem isToken]
  rfl

theorem Holds.family_lt (holds : pool.Holds token) : pool.family token < pool.flags.length := by
  rw [family_eq holds.isToken]
  exact holds.flagged _ (List.getElem_mem holds.isToken)

/-- The family of any position is that of a token. -/
theorem Holds.family_mem (holds : pool.Holds token) (position : Nat) :
    pool.family position ∈ pool.families := by
  have bound := Nat.mod_lt position (Nat.zero_lt_of_lt holds.isToken)
  rw [family, List.getD_eq_getElem?_getD, List.getElem?_eq_getElem bound]
  exact List.getElem_mem bound

theorem Holds.afterStep (holds : pool.Holds token) (step : TokenStep) :
    (pool.step step).Holds token := by
  cases step with
  | new =>
      refine ⟨fun family isFamily => ?_, ?_⟩
      · rcases List.mem_append.mp isFamily with old | new
        · have below := holds.flagged family old
          simp only [TokenPool.step, List.length_append, List.length_singleton]
          omega
        · rw [List.mem_singleton.mp new]
          simp [TokenPool.step]
      · have isToken := holds.isToken
        simp only [TokenPool.step, List.length_append, List.length_singleton]
        omega
  | clone position =>
      refine ⟨fun family isFamily => ?_, ?_⟩
      · rcases List.mem_append.mp isFamily with old | new
        · exact holds.flagged family old
        · rw [List.mem_singleton.mp new]
          exact holds.flagged _ (holds.family_mem position)
      · have isToken := holds.isToken
        simp only [TokenPool.step, List.length_append, List.length_singleton]
        omega
  | cancel position =>
      refine ⟨fun family isFamily => ?_, holds.isToken⟩
      rw [TokenPool.step, List.length_set]
      exact holds.flagged family isFamily

/-- A token stays in its family. -/
theorem Holds.family_step (holds : pool.Holds token) (step : TokenStep) :
    (pool.step step).family token = pool.family token := by
  rw [family_eq (holds.afterStep step).isToken, family_eq holds.isToken]
  cases step with
  | new => exact List.getElem_append_left holds.isToken
  | clone position => exact List.getElem_append_left holds.isToken
  | cancel position => rfl

/-- A step cancels a family if it cancels one of its tokens. -/
theorem flag_step {family : Nat} (isFamily : family < pool.flags.length) (step : TokenStep) :
    (pool.step step).flags.getD family false = true ↔ pool.flags.getD family false = true ∨
      ∃ position, step = .cancel position ∧ pool.family position = family := by
  cases step with
  | new =>
      simp only [TokenPool.step, List.getD_eq_getElem?_getD, List.getElem?_append_left isFamily,
        reduceCtorEq, false_and, exists_false, or_false]
  | clone position => simp [TokenPool.step]
  | cancel position =>
      simp only [TokenPool.step, List.getD_eq_getElem?_getD, List.getElem?_set, TokenStep.cancel.injEq]
      by_cases same : pool.family position = family
      · simp [same, isFamily]
      · simp [same]

/-- A step cancels the tokens of a family and no others. -/
theorem Holds.isCancelled_step (holds : pool.Holds token) (step : TokenStep) :
    (pool.step step).isCancelled token = true ↔ pool.isCancelled token = true ∨
      ∃ other, step = .cancel other ∧ pool.family other = pool.family token := by
  rw [isCancelled, isCancelled, holds.family_step step]
  exact flag_step holds.family_lt step

/-- The time that is found is that of the first step which cancels a token of the family. -/
theorem cancelTime?_eq_some (holds : pool.Holds token) (fresh : pool.isCancelled token = false)
    (cancels : CancelsFirst token time pool history) : pool.cancelTime? token history = some time := by
  induction cancels with
  | now same =>
      have cancelled := (holds.isCancelled_step _).mpr (.inr ⟨_, rfl, same⟩)
      rw [cancelTime?, if_pos cancelled]
  | @later pool earlier step rest others _ ih =>
      have untouched : (pool.step step).isCancelled token = false := by
        rw [Bool.eq_false_iff, ne_eq, holds.isCancelled_step, fresh]
        rintro (cancelled | ⟨other, isCancel, same⟩)
        · cases cancelled
        · exact others other isCancel same
      rw [cancelTime?, if_neg (by simp [untouched])]
      exact ih (holds.afterStep step) untouched

end TokenPool

variable {α β : Type}

/-! ## Looking at programs -/

theorem waitEnd_none_ne (duration look : Nat) (timeout? : Option Nat) :
    waitEnd duration none timeout? ≠ .cancelled look := by
  cases timeout? with
  | none => simp [waitEnd]
  | some limit =>
      simp only [waitEnd, Option.map]
      split <;> simp

/-- A look is made when the time has passed. -/
theorem le_firstLook (time : Nat) : time ≤ firstLook time * pollInterval := by
  unfold firstLook pollInterval
  omega

/-- A program that is started notices a cancellation some time after its start. -/
def Launch.Notices (timeout? : Option Nat) (time : Nat) : Launch → Prop
  | .refused _ => False
  | .started process => firstLook time * pollInterval < process.duration ∧
      ∀ limit ∈ timeout?, firstLook time ≤ firstLook limit

instance (timeout? : Option Nat) (time : Nat) (launch : Launch) :
    Decidable (launch.Notices timeout? time) :=
  match launch with
  | .refused _ => inferInstanceAs (Decidable False)
  | .started process => inferInstanceAs (Decidable (firstLook time * pollInterval < process.duration ∧
      ∀ limit ∈ timeout?, firstLook time ≤ firstLook limit))

/-- Waiting for a program ends with the cancellation if the program notices it. -/
theorem waitEnd_some (process : ProcessRun) (time : Nat) (timeout? : Option Nat) :
    waitEnd process.duration (some time) timeout? =
      if (Launch.started process).Notices timeout? time then .cancelled (firstLook time)
      else waitEnd process.duration none timeout? := by
  have notices_iff : (Launch.started process).Notices timeout? time ↔
      firstLook time * pollInterval < process.duration ∧
        ∀ limit ∈ timeout?, firstLook time ≤ firstLook limit := Iff.rfl
  cases timeout? with
  | none => simp [waitEnd, notices_iff]
  | some limit =>
      by_cases first : firstLook time ≤ firstLook limit
      · by_cases running : firstLook time * pollInterval < process.duration
        · simp [waitEnd, notices_iff, first, running]
        · have ended : ¬ firstLook limit * pollInterval < process.duration := by
            have later := Nat.mul_le_mul_right pollInterval first
            omega
          simp [waitEnd, notices_iff, first, running, ended]
      · simp [waitEnd, notices_iff, first]

def CommandProvider.Notices (provider : CommandProvider) (programs : Programs) (time : Nat)
    (spawn : Spawn) : Prop :=
  (programs spawn.program spawn.args).Notices provider.timeout? (time - spawn.time)

instance (provider : CommandProvider) (programs : Programs) (time : Nat) :
    DecidablePred (provider.Notices programs time) :=
  fun spawn => inferInstanceAs
    (Decidable ((programs spawn.program spawn.args).Notices provider.timeout? (time - spawn.time)))

/-- A program that has been started runs and ends by a time. -/
def Spawn.EndsBy (programs : Programs) (spawn : Spawn) (time : Nat) : Prop :=
  ∃ process, programs spawn.program spawn.args = .started process ∧
    spawn.time + process.duration ≤ time

theorem Spawn.EndsBy.mono {programs : Programs} {spawn : Spawn} {time later : Nat}
    (ends : spawn.EndsBy programs time) (below : time ≤ later) : spawn.EndsBy programs later := by
  obtain ⟨process, started, ended⟩ := ends
  exact ⟨process, started, Nat.le_trans ended below⟩

/-- A program that ends before a cancellation does not notice it. -/
theorem Spawn.EndsBy.not_notices {provider : CommandProvider} {programs : Programs} {spawn : Spawn}
    {time : Nat} (ends : spawn.EndsBy programs time) : ¬ provider.Notices programs time spawn := by
  obtain ⟨process, started, ended⟩ := ends
  unfold CommandProvider.Notices
  rw [started]
  rintro ⟨running, -⟩
  have looked := le_firstLook (time - spawn.time)
  omega

/-! ## Courses of evaluations -/

def cutShort (stops : Spawn → Prop) [DecidablePred stops] (result : Except EvaluationError α) :
    List Spawn → Except EvaluationError α × List Spawn
  | [] => (result, [])
  | spawn :: rest =>
      if stops spawn then (.error .cancelled, [spawn])
      else ((cutShort stops result rest).1, spawn :: (cutShort stops result rest).2)

section

variable {stops : Spawn → Prop} [DecidablePred stops] {result : Except EvaluationError α}
  {made : List Spawn}

theorem cutShort_of_none (silent : ∀ spawn ∈ made, ¬ stops spawn) :
    cutShort stops result made = (result, made) := by
  induction made with
  | nil => rfl
  | cons spawn rest ih =>
      obtain ⟨first, others⟩ := List.forall_mem_cons.mp silent
      rw [cutShort, if_neg first, ih others]

theorem cutShort_of_first {before after : List Spawn} {spawn : Spawn}
    (silent : ∀ earlier ∈ before, ¬ stops earlier) (first : stops spawn) :
    cutShort stops result (before ++ spawn :: after) = (.error .cancelled, before ++ [spawn]) := by
  induction before with
  | nil => rw [List.nil_append, cutShort, if_pos first, List.nil_append]
  | cons earlier rest ih =>
      obtain ⟨notFirst, others⟩ := List.forall_mem_cons.mp silent
      rw [List.cons_append, cutShort, if_neg notFirst, ih others, List.cons_append]

theorem cutShort_append_of_none {more : List Spawn} (silent : ∀ spawn ∈ made, ¬ stops spawn) :
    cutShort stops result (made ++ more) =
      ((cutShort stops result more).1, made ++ (cutShort stops result more).2) := by
  induction made with
  | nil => rfl
  | cons spawn rest ih =>
      obtain ⟨first, others⟩ := List.forall_mem_cons.mp silent
      rw [List.cons_append, cutShort, if_neg first, ih others, List.cons_append]

/-- Either no program gives the evaluation up, or there is a first one that does. -/
theorem none_or_first_stops (stops : Spawn → Prop) [DecidablePred stops] (made : List Spawn) :
    (∀ spawn ∈ made, ¬ stops spawn) ∨ ∃ before spawn after, made = before ++ spawn :: after ∧
      (∀ earlier ∈ before, ¬ stops earlier) ∧ stops spawn := by
  induction made with
  | nil => exact .inl (List.forall_mem_nil _)
  | cons spawn rest ih =>
      by_cases first : stops spawn
      · exact .inr ⟨[], spawn, rest, rfl, List.forall_mem_nil _, first⟩
      · rcases ih with silent | ⟨before, stopping, after, rfl, earlier, stopped⟩
        · exact .inl (List.forall_mem_cons.mpr ⟨first, silent⟩)
        · exact .inr ⟨spawn :: before, stopping, after, rfl,
            List.forall_mem_cons.mpr ⟨first, earlier⟩, stopped⟩

end

/-- What a step of an evaluation that nobody cancels does: it starts some programs, each after those
before have ended. -/
structure Course (programs : Programs) (session : Session) (result : Except EvaluationError α)
    (later : Session) (made : List Spawn) : Prop where
  spawns : later.spawns = made.reverse ++ session.spawns
  notCancelled : result ≠ .error .cancelled
  onward : ∀ a, result = .ok a → session.clock ≤ later.clock
  since : ∀ spawn ∈ made, session.clock ≤ spawn.time
  ended : ∀ a, result = .ok a → ∀ spawn ∈ made, spawn.EndsBy programs later.clock
  sequential : made.Pairwise fun first second => first.EndsBy programs second.time

/-- One step takes the course of another, up to the first program that stops it. -/
def Follows (programs : Programs) (stops : Spawn → Prop) [DecidablePred stops]
    (step plain : Evaluate α) : Prop :=
  ∀ session, ∃ result later made, plain.run.run session = (result, later) ∧
    Course programs session result later made ∧
    ∃ later', step.run.run session = ((cutShort stops result made).1, later') ∧
      later'.spawns = (cutShort stops result made).2.reverse ++ session.spawns ∧
      ((∀ spawn ∈ made, ¬ stops spawn) → later' = later)

section Steps

variable {programs : Programs} {stops : Spawn → Prop} [DecidablePred stops]
  {step plain : Evaluate α} {next nextPlain : α → Evaluate β}

/-- A computation that starts nothing and is not cancelled follows itself. -/
theorem follows_silent {result : Except EvaluationError α}
    (silent : ∀ session, step.run.run session = (result, session))
    (notCancelled : result ≠ .error .cancelled) : Follows programs stops step step := by
  intro session
  refine ⟨result, session, [], silent session, ?_, session, silent session, rfl, fun _ => rfl⟩
  exact ⟨rfl, notCancelled, fun _ _ => Nat.le_refl _, List.forall_mem_nil _,
    fun _ _ => List.forall_mem_nil _, .nil⟩

theorem follows_pure (a : α) : Follows programs stops (pure a) (pure a) :=
  follows_silent (fun _ => rfl) nofun

theorem follows_throw {error : EvaluationError} (notCancelled : error ≠ .cancelled) :
    Follows programs stops (throw error : Evaluate α) (throw error) :=
  follows_silent (fun _ => rfl) fun same => notCancelled (Except.error.inj same)

theorem follows_lift {x : Except EvaluationError α} (notCancelled : x ≠ .error .cancelled) :
    Follows programs stops (liftM x : Evaluate α) (liftM x) :=
  follows_silent (fun _ => rfl) notCancelled

/-- Programs that are started one step after another are started one after another. -/
theorem Course.append {session middle later : Session} {a : α} {result : Except EvaluationError β}
    {made more : List Spawn} (first : Course programs session (.ok a) middle made)
    (second : Course programs middle result later more) :
    Course programs session result later (made ++ more) := by
  have onward := first.onward a rfl
  have ended := first.ended a rfl
  refine ⟨?_, second.notCancelled, fun b isOk => Nat.le_trans onward (second.onward b isOk), ?_, ?_, ?_⟩
  · rw [second.spawns, first.spawns, List.reverse_append, List.append_assoc]
  · intro spawn isMade
    rcases List.mem_append.mp isMade with earlier | later
    · exact first.since spawn earlier
    · exact Nat.le_trans onward (second.since spawn later)
  · intro b isOk spawn isMade
    rcases List.mem_append.mp isMade with earlier | later
    · exact (ended spawn earlier).mono (second.onward b isOk)
    · exact second.ended b isOk spawn later
  · rw [List.pairwise_append]
    exact ⟨first.sequential, second.sequential, fun spawn earlier other later =>
      (ended spawn earlier).mono (second.since other later)⟩

/-- The course of a step that fails is that of the sequence. -/
theorem Course.of_error {session later : Session} {error : EvaluationError} {made : List Spawn}
    (course : Course programs session (.error error : Except EvaluationError α) later made) :
    Course programs session (.error error : Except EvaluationError β) later made :=
  ⟨course.spawns, fun same => course.notCancelled (congrArg _ (Except.error.inj same)), nofun,
    course.since, nofun, course.sequential⟩

/-- Two steps one after another follow two others that they follow one by one. -/
theorem Follows.bind (first : Follows programs stops step plain)
    (second : ∀ a, Follows programs stops (next a) (nextPlain a)) :
    Follows programs stops (step >>= next) (plain >>= nextPlain) := by
  intro session
  obtain ⟨result, middle, made, ran, course, middle', ran', spawns', unnoticed⟩ := first session
  -- if the first step is stopped, the second is not reached, whatever it would do
  rcases none_or_first_stops stops made with silent | ⟨before, spawn, after, rfl, earlier, stopped⟩
  · obtain rfl := unnoticed silent
    rw [cutShort_of_none silent] at ran' spawns'
    cases result with
    | error error =>
        refine ⟨.error error, middle', made, run_bind_error ran, course.of_error, middle', ?_, ?_,
          fun _ => rfl⟩
        · rw [cutShort_of_none silent]
          exact run_bind_error ran'
        · rw [cutShort_of_none silent]
          exact spawns'
    | ok a =>
        obtain ⟨result, later, more, ranOn, courseOn, later', ranOn', spawnsOn', unnoticedOn⟩ :=
          second a middle'
        refine ⟨result, later, made ++ more, (run_bind_ok ran).trans ranOn, course.append courseOn,
          later', ?_, ?_, fun silent => unnoticedOn fun spawn isMade =>
            silent spawn (List.mem_append_right _ isMade)⟩
        · rw [cutShort_append_of_none silent]
          exact (run_bind_ok ran').trans ranOn'
        · rw [cutShort_append_of_none silent, spawnsOn', spawns']
          simp only [List.reverse_append, List.append_assoc]
  · have isMade : spawn ∈ before ++ spawn :: after :=
      List.mem_append_right _ (List.mem_cons_self ..)
    rw [cutShort_of_first earlier stopped] at ran' spawns'
    cases result with
    | error error =>
        refine ⟨.error error, middle, _, run_bind_error ran, course.of_error, middle', ?_, ?_,
          fun silent => absurd stopped (silent spawn isMade)⟩
        · rw [cutShort_of_first earlier stopped]
          exact run_bind_error ran'
        · rw [cutShort_of_first earlier stopped]
          exact spawns'
    | ok a =>
        obtain ⟨result, later, more, ranOn, courseOn, -⟩ := second a middle
        refine ⟨result, later, _, (run_bind_ok ran).trans ranOn, course.append courseOn, middle', ?_,
          ?_, fun silent => absurd stopped (silent spawn (List.mem_append_left _ isMade))⟩
        · rw [List.append_assoc, List.cons_append, cutShort_of_first earlier stopped]
          exact run_bind_error ran'
        · rw [List.append_assoc, List.cons_append, cutShort_of_first earlier stopped]
          exact spawns'

/-- The items of a list, one after another. -/
theorem follows_forM {γ : Type} {items : List γ} {step plain : γ → Evaluate Unit}
    (each : ∀ item ∈ items, Follows programs stops (step item) (plain item)) :
    Follows programs stops (items.forM step) (items.forM plain) := by
  induction items with
  | nil => exact follows_pure ()
  | cons item rest ih =>
      obtain ⟨first, others⟩ := List.forall_mem_cons.mp each
      exact first.bind fun _ => ih others

end Steps

namespace CommandProvider

variable (provider : CommandProvider) {programs : Programs} {time : Nat}

def started (session : Session) (program : String) (args : List String) (time : Nat) : Session :=
  ⟨session.clock + time, ⟨session.clock, program, args⟩ :: session.spawns⟩

theorem run_of_refused {program : String} {args : List String} {cause : SystemError}
    (refused : programs program args = .refused cause) (cancelAt? : Option Nat) (session : Session) :
    (provider.run programs cancelAt? program args).run.run session =
      (.error (.spawn program cause), started session program args 0) := by
  simp only [run, refused]
  rfl

theorem run_of_started {program : String} {args : List String} {process : ProcessRun}
    (isStarted : programs program args = .started process) (cancelAt? : Option Nat)
    (session : Session) :
    (provider.run programs cancelAt? program args).run.run session =
      match waitEnd process.duration (cancelAt?.map (· - session.clock)) provider.timeout? with
      | .finished =>
          (.ok process, started session program args (max process.duration process.closing))
      | .cancelled look =>
          (.error .cancelled, started session program args (look * pollInterval))
      | .timedOut look =>
          (.error (.timedOut (provider.timeout?.getD 0)),
            started session program args (look * pollInterval)) := by
  let passed (time : Nat) : Evaluate Unit :=
    modify fun later => { later with clock := session.clock + time }
  have entered : (provider.run programs cancelAt? program args).run.run session =
      (match waitEnd process.duration (cancelAt?.map (· - session.clock)) provider.timeout? with
        | .finished => do
            passed (max process.duration process.closing)
            return process
        | .cancelled look => do
            passed (look * pollInterval)
            throw .cancelled
        | .timedOut look => do
            passed (look * pollInterval)
            throw (.timedOut (provider.timeout?.getD 0)) : Evaluate ProcessRun).run.run
        (started session program args 0) := by
    simp only [run, isStarted]
    rfl
  rw [entered]
  cases waitEnd process.duration (cancelAt?.map (· - session.clock)) provider.timeout? <;> rfl

/-- The course of a step that starts one program. -/
theorem course_started {session : Session} {program : String} {args : List String} {passed : Nat}
    {result : Except EvaluationError α} (notCancelled : result ≠ .error .cancelled)
    (ended : ∀ a, result = .ok a → ∃ process, programs program args = .started process ∧
      process.duration ≤ passed) :
    Course programs session result (started session program args passed)
      [⟨session.clock, program, args⟩] := by
  refine ⟨rfl, notCancelled, fun _ _ => Nat.le_add_right _ _, ?_, fun a isOk => ?_,
    List.pairwise_singleton _ _⟩
  · exact List.forall_mem_singleton.mpr (Nat.le_refl _)
  · obtain ⟨process, isStarted, below⟩ := ended a isOk
    exact List.forall_mem_singleton.mpr ⟨process, isStarted, Nat.add_le_add_left below _⟩

/-- Without a cancellation a program that has been started has the time that it takes, or until it
is given up. -/
theorem exists_run_none {program : String} {args : List String} {process : ProcessRun}
    (isStarted : programs program args = .started process) (session : Session) :
    ∃ result passed, (provider.run programs none program args).run.run session =
        (result, started session program args passed) ∧
      Course programs session result (started session program args passed)
        [⟨session.clock, program, args⟩] := by
  rw [provider.run_of_started isStarted]
  cases ends : waitEnd process.duration (Option.map (· - session.clock) none) provider.timeout? with
  | finished =>
      exact ⟨_, _, rfl, course_started nofun fun _ _ => ⟨process, isStarted, Nat.le_max_left _ _⟩⟩
  | cancelled look => exact absurd ends (waitEnd_none_ne _ _ _)
  | timedOut look => exact ⟨_, _, rfl, course_started nofun nofun⟩

/-- A program is waited for as without the cancellation, unless it notices it. -/
theorem follows_run (program : String) (args : List String) :
    Follows programs (provider.Notices programs time) (provider.run programs (some time) program args)
      (provider.run programs none program args) := by
  intro session
  have notices_iff : provider.Notices programs time ⟨session.clock, program, args⟩ ↔
      (programs program args).Notices provider.timeout? (time - session.clock) := Iff.rfl
  cases answer : programs program args with
  | refused cause =>
      have silent : ∀ spawn ∈ [⟨session.clock, program, args⟩],
          ¬ provider.Notices programs time spawn := by
        rw [List.forall_mem_singleton, notices_iff, answer]
        exact id
      refine ⟨_, _, _, provider.run_of_refused answer none session, course_started nofun nofun, _, ?_,
        ?_, fun _ => rfl⟩
      · rw [cutShort_of_none silent, provider.run_of_refused answer]
      · rw [cutShort_of_none silent]
        rfl
  | started process =>
      rw [answer] at notices_iff
      obtain ⟨result, passed, plain, course⟩ := provider.exists_run_none answer session
      have awaited := provider.run_of_started answer (some time) session
      rw [Option.map_some, waitEnd_some] at awaited
      by_cases noticed : provider.Notices programs time ⟨session.clock, program, args⟩
      · rw [if_pos (notices_iff.mp noticed)] at awaited
        refine ⟨result, _, _, plain, course,
          started session program args (firstLook (time - session.clock) * pollInterval), ?_, ?_,
          fun silent => ?_⟩
        · rw [cutShort, if_pos noticed]
          exact awaited
        · rw [cutShort, if_pos noticed]
          rfl
        · exact absurd noticed (silent _ (List.mem_singleton.mpr rfl))
      · have silent : ∀ spawn ∈ [⟨session.clock, program, args⟩],
            ¬ provider.Notices programs time spawn := List.forall_mem_singleton.mpr noticed
        rw [if_neg (mt notices_iff.mpr noticed)] at awaited
        have same : (provider.run programs (some time) program args).run.run session =
            (provider.run programs none program args).run.run session := by
          rw [awaited, provider.run_of_started answer, Option.map_none]
        refine ⟨result, _, _, plain, course, started session program args passed, ?_, ?_,
          fun _ => rfl⟩
        · rw [cutShort_of_none silent, same, plain]
        · rw [cutShort_of_none silent]
          rfl

/-- That a request has no arguments does not cancel an evaluation. -/
theorem commandArgs_ne_cancelled (directory : WorkingDirectory) (request : Request) :
    provider.commandArgs directory request ≠ .error .cancelled := by
  have ofPath (path : ByteArray) : absolutePath directory path ≠ .error .cancelled := by
    unfold absolutePath
    split
    · exact nofun
    · intro failed
      obtain ⟨cause, -, same⟩ := Outcome.mapError_eq_error.mp (Outcome.map_eq_error.mp failed)
      cases same
  have ofLocator : request.locator.text directory ≠ .error .cancelled := by
    cases request.locator with
    | expression text => exact nofun
    | path path =>
        intro failed
        rcases Outcome.bind_eq_error.mp failed with failed | ⟨place, -, failed⟩
        · exact ofPath path failed
        · split at failed <;> cases failed
  intro failed
  rcases Outcome.bind_eq_error.mp failed with failed | ⟨arguments, -, failed⟩
  · rcases Outcome.bind_eq_error.mp failed with failed | ⟨text, -, failed⟩
    · exact ofLocator failed
    · cases failed
  · cases failed

section

variable (directory : WorkingDirectory) (request : Request)

def stages (programs : Programs) (cancelAt? : Option Nat) : Evaluate ByteArray := do
  provider.check programs cancelAt? request
  let args ← provider.commandArgs directory request
  let process ← provider.run programs cancelAt? provider.program args
  if process.success then return process.output
  else throw (.diagnostic (messageOf process))

theorem evaluate_none :
    provider.evaluate programs directory none request = provider.stages directory request programs none :=
  rfl

/-- An evaluation looks for a cancellation once before its stages. -/
theorem evaluate_run (time : Nat) (session : Session) :
    (provider.evaluate programs directory (some time) request).run.run session =
      if time ≤ session.clock then (.error .cancelled, session)
      else (provider.stages directory request programs (some time)).run.run session := by
  have entered : (provider.evaluate programs directory (some time) request).run.run session =
      (if (some time).any (· ≤ session.clock) = true then do
          let _ ← (throw .cancelled : Evaluate Unit)
          provider.stages directory request programs (some time)
        else provider.stages directory request programs (some time)).run.run session := rfl
  rw [entered]
  by_cases early : time ≤ session.clock
  · rw [if_pos early, if_pos (by simpa using early)]
    rfl
  · rw [if_neg early, if_neg (by simpa using early)]

/-- The stages follow those of the evaluation that nobody cancels. -/
theorem follows_stages :
    Follows programs (provider.Notices programs time)
      (provider.stages directory request programs (some time))
      (provider.stages directory request programs none) := by
  have checked : Follows programs (provider.Notices programs time)
      (provider.check programs (some time) request) (provider.check programs none request) := by
    unfold check
    cases provider.checker? with
    | none => exact follows_pure ()
    | some checker =>
        refine follows_forM fun item _ => (provider.follows_run _ _).bind fun process => ?_
        cases process.success with
        | true => exact follows_pure ()
        | false => exact follows_throw nofun
  refine checked.bind fun _ => ?_
  refine (follows_lift (provider.commandArgs_ne_cancelled directory request)).bind fun args => ?_
  refine (provider.follows_run _ _).bind fun process => ?_
  cases process.success with
  | true => exact follows_pure process.output
  | false => exact follows_throw nofun

/-- What comes of an evaluation that nobody cancels, and of one that is cancelled at a time. -/
theorem exists_course (programs : Programs) (time : Nat) :
    ∃ result later made, provider.outcome programs directory none request = (result, made) ∧
      Course programs .start result later made ∧
      provider.outcome programs directory (some time) request =
        if time = 0 then (.error .cancelled, [])
        else cutShort (provider.Notices programs time) result made := by
  have follows : Follows programs (provider.Notices programs time) _ _ :=
    provider.follows_stages directory request
  obtain ⟨result, later, made, ran, course, later', ran', spawns', -⟩ := follows .start
  have spawns : later.spawns.reverse = made := by
    rw [course.spawns, List.reverse_append, List.reverse_reverse]
    rfl
  refine ⟨result, later, made, ?_, course, ?_⟩
  · simp only [outcome, evaluate_none, ran, spawns]
  · have begun_iff : time ≤ Session.start.clock ↔ time = 0 := Nat.le_zero
    simp only [outcome, evaluate_run, begun_iff]
    by_cases begun : time = 0
    · rw [if_pos begun, if_pos begun]
      rfl
    · rw [if_neg begun, if_neg begun, ran', spawns', List.reverse_append, List.reverse_reverse]
      rfl

end

/-- What an evaluation that is cancelled at a time comes to, compared to the one that nobody cancels.
Each is given by its result and the programs that it starts. -/
structure EndsEarly (provider : CommandProvider) (programs : Programs) (time : Nat)
    (plain cancelled : Except EvaluationError ByteArray × List Spawn) : Prop where
  /-- Each program is started after those before it have ended. -/
  sequential : plain.2.Pairwise fun first second => first.EndsBy programs second.time
  /-- An evaluation that has been cancelled before starts nothing. -/
  at_once : time = 0 → cancelled = (.error .cancelled, [])
  /-- The first program that notices the cancellation is the last one. -/
  stops : ∀ before spawn after, 0 < time → plain.2 = before ++ spawn :: after →
    (∀ earlier ∈ before, ¬ provider.Notices programs time earlier) →
    provider.Notices programs time spawn → cancelled = (.error .cancelled, before ++ [spawn])
  /-- If no program notices it, the cancellation changes nothing. -/
  proceeds : 0 < time → (∀ spawn ∈ plain.2, ¬ provider.Notices programs time spawn) →
    cancelled = plain
  /-- The evaluation is cancelled if and only if it has not begun, or some program notices it. -/
  cancelled_iff : cancelled.1 = .error .cancelled ↔
    time = 0 ∨ ∃ spawn ∈ plain.2, provider.Notices programs time spawn
  /-- No program is started after the cancellation, if and only if the last one before notices it. -/
  in_time_iff : ∀ before last next after, plain.2 = before ++ last :: next :: after →
    last.time < time → time ≤ next.time →
    ((∀ spawn ∈ cancelled.2, spawn.time < time) ↔ provider.Notices programs time last)

theorem endsEarly_of_cutShort {result : Except EvaluationError ByteArray} {made : List Spawn}
    (notCancelled : result ≠ .error .cancelled)
    (sequential : made.Pairwise fun first second => first.EndsBy programs second.time) :
    EndsEarly provider programs time (result, made) (if time = 0 then (.error .cancelled, [])
      else cutShort (provider.Notices programs time) result made) := by
  refine ⟨sequential, fun begun => if_pos begun, ?_, ?_, ?_, ?_⟩
  · intro before spawn after begun split earlier notices
    dsimp only at split
    rw [if_neg (Nat.ne_of_gt begun), split, cutShort_of_first earlier notices]
  · intro begun unnoticed
    rw [if_neg (Nat.ne_of_gt begun), cutShort_of_none unnoticed]
  · by_cases begun : time = 0
    · rw [if_pos begun]
      exact iff_of_true rfl (.inl begun)
    · rw [if_neg begun]
      rcases none_or_first_stops (provider.Notices programs time) made with
        unnoticed | ⟨before, spawn, after, rfl, earlier, notices⟩
      · rw [cutShort_of_none unnoticed]
        refine iff_of_false notCancelled ?_
        rintro (same | ⟨spawn, isMade, notices⟩)
        · exact begun same
        · exact unnoticed spawn isMade notices
      · rw [cutShort_of_first earlier notices]
        exact iff_of_true rfl
          (.inr ⟨spawn, List.mem_append_right _ (List.mem_cons_self ..), notices⟩)
  · intro before last next after split early late
    dsimp only at split
    rw [split] at sequential ⊢
    have ended : ∀ earlier ∈ before, earlier.EndsBy programs last.time := fun earlier isBefore =>
      (List.pairwise_append.mp sequential).2.2 earlier isBefore last (List.mem_cons_self ..)
    -- those before have ended by then, so it is up to the last one
    have unnoticed : ∀ earlier ∈ before, ¬ provider.Notices programs time earlier :=
      fun earlier isBefore => ((ended earlier isBefore).mono (Nat.le_of_lt early)).not_notices
    rw [if_neg (Nat.ne_of_gt (Nat.zero_lt_of_lt early))]
    constructor
    · intro inTime
      refine Decidable.byContradiction fun notLast => ?_
      -- the next program is started whether or not it notices the cancellation itself
      have isNext : next ∈ (cutShort (provider.Notices programs time) result (next :: after)).2 := by
        rw [cutShort]
        split <;> exact List.mem_cons_self ..
      rw [cutShort_append_of_none unnoticed, cutShort, if_neg notLast] at inTime
      have before' := inTime next (List.mem_append_right _ (List.mem_cons_of_mem _ isNext))
      omega
    · intro notices spawn isMade
      rw [cutShort_of_first unnoticed notices] at isMade
      rcases List.mem_append.mp isMade with isBefore | isLast
      · obtain ⟨process, -, below⟩ := ended spawn isBefore
        omega
      · rw [List.mem_singleton.mp isLast]
        exact early

/-- An evaluation whose token is cancelled, by itself or by a clone of it, ends with the first program
that is looked at afterwards while it is running. -/
theorem outcome_cancelled (provider : CommandProvider) (programs : Programs)
    (directory : WorkingDirectory) (request : Request) {pool : TokenPool} {token time : Nat}
    {history : List (Nat × TokenStep)} (holds : pool.Holds token)
    (fresh : pool.isCancelled token = false)
    (cancels : TokenPool.CancelsFirst token time pool history) :
    EndsEarly provider programs time (provider.outcome programs directory none request)
      (provider.outcome programs directory (pool.cancelTime? token history) request) := by
  obtain ⟨result, later, made, plain, course, cancelled⟩ :=
    provider.exists_course directory request programs time
  rw [TokenPool.cancelTime?_eq_some holds fresh cancels, plain, cancelled]
  exact provider.endsEarly_of_cutShort course.notCancelled course.sequential

def cancelAt (time : Nat) : List (Nat × TokenStep) :=
  [(0, .clone 0), (time, .cancel 1)]

theorem holds_start : TokenPool.start.Holds 0 :=
  ⟨by decide, by decide⟩

theorem cancelsFirst_cancelAt (time : Nat) : TokenPool.CancelsFirst 0 time .start (cancelAt time) :=
  .later nofun (.now rfl)

def timedPrograms (checking : Nat) : Programs := fun _ args =>
  if args.contains "--parse" then .started ⟨checking, checking, true, .empty, .empty⟩
  else .started ⟨5, 5, true, "\x7b\x7d".toUTF8, .empty⟩

def timedOutcome (checking time : Nat) : Except EvaluationError ByteArray × List Spawn :=
  checkingProvider.outcome (timedPrograms checking) (.ok .empty)
    (TokenPool.start.cancelTime? 0 (cancelAt time)) pairRequest

/-- A check that is still running after the cancellation is the last program. -/
theorem outcome_cancelled_slowCheck :
    TokenPool.start.Holds 0 ∧ TokenPool.start.isCancelled 0 = false ∧
      TokenPool.CancelsFirst 0 150 .start (cancelAt 150) ∧
      timedOutcome 350 150 = (.error .cancelled, [⟨0, "nix-instantiate",
        ["--parse", "--expr", "\x7b pkgs, ... \x7d: \x7b \x7d"]⟩]) := by
  have early := checkingProvider.outcome_cancelled (timedPrograms 350) (.ok .empty) pairRequest
    holds_start rfl (cancelsFirst_cancelAt 150)
  refine ⟨holds_start, rfl, cancelsFirst_cancelAt 150, ?_⟩
  exact early.stops [] _ _ (by decide) rfl (List.forall_mem_nil _) (by decide)

/-- Checks that end before they are looked at do not notice the cancellation. Four of them and the
evaluator are started after it, and the evaluation succeeds. -/
theorem timedOutcome_quickChecks :
    TokenPool.CancelsFirst 0 15 .start (cancelAt 15) ∧
      (timedOutcome 40 15).1 = .ok "\x7b\x7d".toUTF8 ∧
      (timedOutcome 40 15).2.map Spawn.time = [0, 40, 80, 120, 160, 200] :=
  ⟨cancelsFirst_cancelAt 15, rfl, rfl⟩

end CommandProvider

end OptionSchema.Evaluation
