import OptionSchema.Shell.Builtin.Variables
import OptionSchema.Shell.Location
import OptionSchema.Shell.Redirect

/-!
# Launching programs

A program that is not the shell is a tool, which takes its steps one after the other. The shell is a
program, too: it reads its script from an argument, a file or its input.
-/

namespace OptionSchema.Shell

def takeStep (step : Step) : Run Bool := do
  match step with
  | .complain message =>
      let _ ← writeText 2 message
      return true
  | .write flow =>
      let flow := flow.delayed (← get).clock
      let output? := (← getProcess).descriptor? 1
      let mut isWritten := true
      for (time, bytes) in flow.pieces do
        isWritten := (← writeAt time output? bytes) && isWritten
      match flow.endTime? with
      | some time => waitUntil time
      | none => throw .endless
      return isWritten

/-- Runs a tool that is called by a name. A tool complains only once that it cannot write. -/
def runTool (tool : Tool) (name : String) (args : List String) : Run Unit := do
  let system ← get
  let input := (system.input 0).map (·.delayed system.clock)
  let reply := tool ⟨name, args, system.clock, input, system.readFile⟩
  reply.left?.forM (setInput 0)
  setStatus reply.status
  let mut isWritten := true
  for step in reply.steps do
    isWritten := (← takeStep step) && isWritten
  if !isWritten then
    let _ ← writeText 2 s!"{name}: write error: {SystemError.badDescriptor.description}\n"
    setStatus 1

def standardVariables (directory : List String) : List (String × String) :=
  [("IFS", " \t\n"), ("OPTIND", "1"), ("PATH", standardPath), ("PS4", "+ "),
    ("PWD", Builtin.placeText directory)]

def Process.asShell (process : Process) (name : String) (args : List String)
    (options : List Char) : Process :=
  let kept := process.bindings.filter fun (name, _) => process.exported.contains name
  let isNew : String × String → Bool := fun (name, _) => (kept.lookup name).isNone
  { process with
    first := process.number
    name
    args
    bindings := kept ++ (standardVariables process.directory).filter isNew
    functions := []
    status := 0
    options
    tested := false
    jobs := []
    loops := 0
    calls := 0
    builtin? := none
    cursor := .start }

/-- Runs the script that is the input of a shell. An input that cannot be read is empty. -/
def runInput (run : Runner) : Run Unit := do
  match (← get).input 0 with
  | .error _ => return ()
  | .ok flow =>
      match flow.endTime? with
      | none => throw .endless
      | some time =>
          waitUntil time
          setInput 0 (.empty time)
          runScript run (ByteText.ofBytes flow.bytes)

def runShell (run : Runner) (name : String) (args : List String) : Run Unit := do
  let refuse (message : String) : Run Unit := do
    let _ ← writeText 2 s!"{name}: 0: {message}\n"
    setStatus 2
    throw .failed
  let become (name : String) (args : List String) (options : List Char) : Run Unit :=
    modifyProcess (·.asShell name args options)
  match readOptions true ⟨[], false, none⟩ args with
  | .error text => refuse s!"Illegal option {text}"
  | .ok ⟨letters, true, some (script :: names)⟩ =>
      become (names.headD name) names.tail letters
      runScript run script
  | .ok ⟨_, true, _⟩ => refuse "-c requires an argument"
  | .ok ⟨letters, false, some (path :: args)⟩ =>
      match (← get).readFile path with
      | .ok script =>
          become path args letters
          runScript run (ByteText.ofBytes script.bytes)
      | .error cause => refuse (openFailure "open" path "No such file" cause)
  | .ok ⟨letters, false, _⟩ =>
      become name [] letters
      runInput run

def runProgram (run : Runner) (program name : String) (args : List String) : Run Unit := do
  match tool? program with
  | some tool => runTool tool name args
  | none => runShell run name args

def System.program (system : System) (name : String) : Except (Nat × String) String :=
  let process := system.process
  let searchPath := (process.value? "PATH").getD standardPath
  match findProgram system.files process.directory searchPath name with
  | .ok program => .ok program
  | .error .permissionDenied =>
      let status := if name.toList.contains '/' then 126 else 127
      .error (status, s!"{name}: Permission denied")
  | .error .nameTooLong => .error (127, s!"{name}: File name too long")
  | .error _ => .error (127, s!"{name}: not found")

def runOther (run : Runner) (replaces : Bool) (name : String) (args : List String) : Run Unit := do
  match (← get).program name with
  | .ok program =>
      let body := runProgram run program name args
      if replaces then body else waitFor (← isolate id body)
  | .error (status, message) =>
      complain message
      setStatus status
  if replaces then throw .exited

end OptionSchema.Shell
