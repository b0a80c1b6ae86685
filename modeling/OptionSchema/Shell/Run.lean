import OptionSchema.Shell.Simple

/-!
# Running commands

Lists, pipelines, loops, tests and functions, down to the simple commands. A shell can stop at the
first command that fails and is not a test. How many commands run is limited: a script that exceeds
the limit counts as one that never ends.
-/

namespace OptionSchema.Shell

def testing (body : Run Unit) : Run Unit := do
  let before := (← getProcess).tested
  modifyProcess fun process => { process with tested := true }
  ensuring body (modifyProcess fun process => { process with tested := before })

def checkStrict : Run Unit := do
  let process ← getProcess
  if process.has 'e' && !process.tested && process.status != 0 then throw .exited

/-- Runs a command in the background. It starts a little later than what follows it, and reads
nothing. -/
def runBackground (run : Runner) (body : Command) : Run Unit := do
  let start := (← get).clock
  let number := (← get).started
  waitUntil (start + 1)
  let input ← newSource (.empty start)
  let change (process : Process) : Process :=
    { process.withDescriptor 0 (some input) with tested := false }
  let exit ← isolate change (run body)
  let system ← get
  let held := system.process.heldStreams.map (·, exit)
  set { system with clock := start, holds := held ++ system.holds }
  modifyProcess fun process =>
    { process with jobs := (number, exit) :: process.jobs, status := 0 }

/-- Runs two commands side by side, the output of the first one being the input of the second one.
-/
def runPipe (run : Runner) (source sink : Command) : Run Unit := do
  let start := (← get).clock
  let stream ← newStream
  let sourceExit ← isolate (·.withDescriptor 1 (some (.stream stream))) (run source)
  let input ← newSource ((← get).flow stream sourceExit)
  modify fun system => { system with clock := start }
  let sinkExit ← isolate (·.withDescriptor 0 (some input)) (run sink)
  match sourceExit with
  | .never => throw .endless
  | .ended time _ _ => waitUntil time
  waitFor sinkExit

/-- How a part of a round of a loop ends: at its end, with the next round, or with the loop. -/
inductive Round where
  | whole
  | cutShort
  | last

def runRound (body : Run Unit) : Run Round := do
  match ← attempt body with
  | none => return .whole
  | some (.leave loops) => if loops ≤ 1 then return .last else throw (.leave (loops - 1))
  | some (.next loops) => if loops ≤ 1 then return .cutShort else throw (.next (loops - 1))
  | some jump => throw jump

def inLoop (body : Run Unit) : Run Unit := do
  let before := (← getProcess).loops
  modifyProcess fun process => { process with loops := before + 1 }
  ensuring body (modifyProcess fun process => { process with loops := before })

/-- Repeats a body as long as a condition holds or fails, for at most a number of rounds. The status
is that of the body, given the one before. -/
def runLoop (runsWhile : Bool) (condition body : Run Unit) : Nat → Nat → Run Unit
  | 0, _ => throw .endless
  | rounds + 1, status => do
      match ← runRound (testing condition) with
      | .last => setStatus status
      | .cutShort => runLoop runsWhile condition body rounds status
      | .whole =>
          if ((← getProcess).status == 0) != runsWhile then setStatus status
          else
            match ← runRound body with
            | .last => return ()
            | _ => runLoop runsWhile condition body rounds (← getProcess).status

def runForEach (name : String) (body : Run Unit) : List String → Run Unit
  | [] => return ()
  | value :: rest => do
      assign name value
      match ← runRound body with
      | .last => return ()
      | _ => runForEach name body rest

def matchesOne (run : Runner) (text : List Char) : List Word → Run Bool
  | [] => return false
  | word :: rest => do
      if fits (← expandPattern run word) text then return true else matchesOne run text rest

def runArms (run : Runner) (text : List Char) : List Arm → Run Unit
  | [] => setStatus 0
  | .mk patterns body :: rest => do
      if ← matchesOne run text patterns then
        match body with
        | .nothing => setStatus 0
        | body => run body
      else runArms run text rest

def step (run : Runner) : Runner
  | .nothing => return ()
  | .simple line assignments words redirections => do
      runSimple run line assignments words redirections
      checkStrict
  | .redirected line body redirections => do
      modifyProcess fun process => { process with line }
      redirected run redirections (run body) (do setStatus 2; checkStrict)
  | .sequence first second => do
      run first
      run second
  | .background body => runBackground run body
  | .both first second => do
      testing (run first)
      if (← getProcess).status == 0 then run second
  | .either first second => do
      testing (run first)
      if (← getProcess).status != 0 then run second
  | .negated body => do
      testing (run body)
      setStatus (if (← getProcess).status == 0 then 1 else 0)
  | .pipe source sink => do
      runPipe run source sink
      checkStrict
  | .branch condition success failure => do
      testing (run condition)
      if (← getProcess).status == 0 then run success
      else
        match failure with
        | .nothing => setStatus 0
        | failure => run failure
  | .loop runsWhile condition body => do
      inLoop (runLoop runsWhile (run condition) (run body) (← get).budget 0)
  | .forEach line name words? body => do
      modifyProcess fun process => { process with line }
      let values ←
        match words? with
        | some words => expandFields run words
        | none => pure (← getProcess).args
      if values.isEmpty then setStatus 0 else inLoop (runForEach name (run body) values)
  | .choose line subject arms => do
      modifyProcess fun process => { process with line }
      let text ← expandText run subject
      runArms run text.toList arms
  | .isolated body => do
      waitFor (← isolate id (run body))
      checkStrict
  | .define name body => do
      modifyProcess fun process =>
        { process with functions := (name, body) :: process.functions.filter (·.1 != name) }
      setStatus 0

def spend : Run Unit := do
  let system ← get
  if system.budget == 0 then throw .endless
  set { system with budget := system.budget - 1 }

/-- Runs a command in which others are contained up to a depth. A shell that goes deeper is ended by
the signal for a lack of memory. -/
def runAt : Nat → Runner
  | 0, _ => throw (.killed 11)
  | depth + 1, command => do
      spend
      step (runAt depth) command

def depthLimit : Nat :=
  16000

def commandLimit : Nat :=
  400000

def runCommand : Runner :=
  runAt depthLimit

end OptionSchema.Shell
