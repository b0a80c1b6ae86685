import OptionSchema.Shell.Script
import OptionSchema.Shell.System

/-!
# Isolated commands

A script runs line by line. Some commands run in a process of their own, which starts as a copy of
the shell and leaves nothing behind but its writes, its status and the time that has passed.
-/

namespace OptionSchema.Shell

abbrev Runner :=
  Command → Run Unit

def attempt (body : Run Unit) : Run (Option Jump) :=
  tryCatch (do body; return none) (fun jump => return some jump)

def ensuring (body after : Run Unit) : Run Unit := do
  let jump? ← attempt body
  after
  match jump? with
  | some jump => throw jump
  | none => return ()

/-- Runs the lines of a script, at most a number of them. A script without commands succeeds. -/
def runLines (run : Runner) (isEmpty : Bool) : Nat → Source → Run Unit
  | 0, _ => return ()
  | lines + 1, source => do
      match readLine source with
      | .error cause => do
          modifyProcess fun process => { process with line := cause.line }
          failWith s!"Syntax error: {cause.fault.message}"
      | .ok none => if isEmpty then setStatus 0
      | .ok (some (.nothing, source)) => runLines run isEmpty lines source
      | .ok (some (command, source)) => do
          run command
          runLines run false lines source

def runScript (run : Runner) (script : String) : Run Unit :=
  runLines run true (2 * script.length + 2) (.ofText script.toList)

/-- Runs what a process consists of, up to its end. Of its status the lowest bits count. -/
def conclude (body : Run Unit) : Run Exit := do
  let jump? ← attempt body
  let system ← get
  match jump? with
  | some (.killed signal) => return .ended system.clock (128 + signal) (some signal)
  | some .endless => return .never
  | _ => return .ended system.clock (system.process.status % 256) none

/-- Runs a process of its own, which starts as a changed copy of the shell without its jobs. -/
def isolate (change : Process → Process) (body : Run Unit) : Run Exit := do
  let system ← get
  let parent := system.process
  let child := change { parent with number := system.started, jobs := [] }
  set { system with process := child, started := system.started + 1 }
  let exit ← conclude body
  modify fun system => { system with process := parent }
  return exit

def signals : List (Nat × String × String) :=
  [(1, "HUP", "Hangup"), (2, "INT", ""), (3, "QUIT", "Quit"), (6, "ABRT", "Aborted"),
    (9, "KILL", "Killed"), (10, "USR1", "User defined signal 1"), (11, "SEGV", "Segmentation fault"),
    (12, "USR2", "User defined signal 2"), (13, "PIPE", ""), (14, "ALRM", "Alarm clock"),
    (15, "TERM", "Terminated")]

def waitFor (exit : Exit) : Run Unit := do
  match exit with
  | .never => throw .endless
  | .ended time status signal? =>
      waitUntil time
      setStatus status
      match signal?.bind fun signal => signals.lookup signal with
      | some (_, text) => if text != "" then let _ ← writeText 2 (text ++ "\n")
      | none => return ()

def withoutLastLineEnds (text : List Char) : List Char :=
  (text.reverse.dropWhile (· == '\n')).reverse

/-- The output of a command. Its status is kept apart from that of the command before. -/
def capture (run : Runner) (body : Command) : Run (List Char) := do
  let stream ← newStream
  let change (process : Process) : Process :=
    { process.withDescriptor 1 (some (.stream stream)) with tested := false }
  let exit ← isolate change (run body)
  let flow := (← get).flow stream exit
  match flow.endTime? with
  | none => throw .endless
  | some time =>
      let before := (← getProcess).status
      waitFor exit
      waitUntil time
      modifyProcess fun process =>
        { process with status := before, substituted? := some process.status }
      let text := (ByteText.ofBytes flow.bytes).toList
      return withoutLastLineEnds (text.filter (· != '\x00'))

end OptionSchema.Shell
