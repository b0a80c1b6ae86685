import OptionSchema.SystemError
import OptionSchema.Text.Digit

/-!
# Processes

What programs do is given by a function from a program and its arguments to what comes of starting
it: a refusal, or a run with its duration, its success and its two streams. Times are in
milliseconds.
-/

namespace OptionSchema.Evaluation

/-- A run of a program that is left to end by itself: how long it takes until the program ends and
until its streams do, which others can keep open, whether it succeeds, and its streams. -/
structure ProcessRun where
  duration : Nat
  closing : Nat
  success : Bool
  output : ByteArray
  errors : ByteArray

inductive Launch where
  | refused (cause : SystemError)
  | started (run : ProcessRun)

abbrev Programs :=
  String → List String → Launch

structure Spawn where
  time : Nat
  program : String
  args : List String
  deriving DecidableEq

/-- The time, and the programs that have been started so far, the last one first. -/
structure Session where
  clock : Nat
  spawns : List Spawn

def Session.start : Session :=
  ⟨0, []⟩

def pollInterval : Nat :=
  100

/-- The number of the first look, counted from one, at which a time since the start has passed. -/
def firstLook (time : Nat) : Nat :=
  max 1 ((time + pollInterval - 1) / pollInterval)

inductive WaitEnd where
  | finished
  | cancelled (look : Nat)
  | timedOut (look : Nat)
  deriving DecidableEq

/-- How waiting for a program ends that runs for `duration`. Cancellation and timeout, given by the
time since the start, are noticed only by a look at the program that finds it still running, and
cancellation is noticed first. -/
def waitEnd (duration : Nat) (cancelAfter? timeout? : Option Nat) : WaitEnd :=
  let running (look : Nat) : Bool := look * pollInterval < duration
  let ended (limit : Nat → WaitEnd) (look : Nat) : WaitEnd :=
    if running look then limit look else .finished
  match cancelAfter?.map firstLook, timeout?.map firstLook with
  | none, none => .finished
  | some cancel, none => ended .cancelled cancel
  | none, some timeout => ended .timedOut timeout
  | some cancel, some timeout =>
      if cancel ≤ timeout then ended .cancelled cancel else ended .timedOut timeout

def describeMilliseconds (time : Nat) : String :=
  if time == 0 then "0ns"
  else if time < 1000 then s!"{Text.decimal time}ms"
  else
    let seconds := Text.decimalDigits (time / 1000)
    let digits := Text.decimalDigits (time % 1000 + 1000)
    let fraction := (digits.drop 1).reverse.dropWhile (· == '0')
    let point := if fraction.isEmpty then [] else '.' :: fraction.reverse
    s!"{String.ofList (seconds ++ point)}s"

end OptionSchema.Evaluation
