import OptionSchema.Evaluation.Process
import OptionSchema.Shell.Run

/-!
# Programs of a system

What comes of starting one of the programs of a system that has a shell and a few tools: it starts
in the root directory, without input, and its streams end when it and all that it has left behind in
the background have ended. Of the shell there is what scripts in place of an evaluator are written
with: words, redirections and all compound commands, but neither aliases, traps, control of jobs nor
patterns of paths.
-/

namespace OptionSchema.Shell

/-- A time that is longer than anyone waits. -/
def forever : Nat :=
  1_000_000_000_000_000

def Process.initial : Process where
  number := 2
  first := 2
  name := "sh"
  args := []
  bindings := [("HOME", "/root"), ("PATH", standardPath)]
  exported := ["HOME", "PATH"]
  functions := []
  status := 0
  options := []
  tested := false
  descriptors :=
    [(0, .source 0), (1, .stream outputStream), (2, .stream errorStream)]
  jobs := []
  loops := 0
  calls := 0
  directory := []
  line := 1
  builtin? := none
  substituted? := none
  cursor := .start

def System.initial : System where
  process := .initial
  clock := 0
  budget := commandLimit
  started := 3
  streams := #[#[], #[]]
  sources := #[.empty 0]
  files := systemFiles
  holds := []

def Exit.time : Exit → Nat
  | .ended time _ _ => time
  | .never => forever

def runOf (program name : String) (args : List String) : Evaluation.ProcessRun :=
  let (result, system) := (conclude (runProgram runCommand program name args)).run.run .initial
  let exit := result.toOption.getD .never
  let written (stream : Nat) : ByteArray := (system.flow stream exit).bytes
  let success := match exit with
    | .ended _ status _ => status == 0
    | .never => false
  { duration := exit.time
    closing := max (system.closing outputStream exit).time (system.closing errorStream exit).time
    success
    output := written outputStream
    errors := written errorStream }

def programs : Evaluation.Programs := fun program args =>
  if (program :: args).any (·.toList.contains '\x00') then .refused .nulInArgument
  else
    match findProgram systemFiles [] standardPath program with
    | .error cause => .refused cause
    | .ok found => .started (runOf found (ByteText.encode program) (args.map ByteText.encode))

end OptionSchema.Shell
