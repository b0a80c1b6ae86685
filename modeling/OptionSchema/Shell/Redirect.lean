import OptionSchema.Shell.Expansion

/-!
# Redirections

A redirection makes a descriptor stand for a file, a document or what another descriptor stands for.
Some paths lead to what the descriptors themselves stand for.
-/

namespace OptionSchema.Shell

def devicePath? (path : String) : Option Nat :=
  match path with
  | "/dev/stdin" => some 0
  | "/dev/stdout" => some 1
  | "/dev/stderr" => some 2
  | _ => none

namespace System

def readFile (system : System) (path : String) : Except SystemError Flow := do
  match devicePath? path with
  | some number => system.input number
  | none => system.contents (← system.files.resolve system.process.directory path)

def hasFile (system : System) (path : String) : Bool :=
  match system.files.resolve system.process.directory path with
  | .ok place => (system.files.read? place).isSome && !isDevice place
  | .error _ => false

end System

def openInput (path : String) : Run (Except SystemError Descriptor) := do
  match (← get).readFile path with
  | .ok flow => return .ok (← newSource flow)
  | .error cause => return .error cause

/-- Opens a path for writing. A file is made if it is missing, and can be emptied. -/
def openOutput (path : String) (empties : Bool) : Run (Except SystemError Descriptor) := do
  let system ← get
  match devicePath? path, system.files.fileAt system.process.directory path with
  | some number, _ =>
      match system.process.descriptor? number with
      | some found => return .ok found
      | none => return .error .noSuchFile
  | none, .error cause => return .error cause
  | none, .ok place =>
      if empties && !isDevice place then
        set { system with files := system.files.put place .empty }
      return .ok (.file place)

def openFailure (action path missing : String) (cause : SystemError) : String :=
  let reason :=
    match cause with
    | .noSuchFile => missing
    | .notADirectory => missing
    | cause => cause.description
  s!"cannot {action} {path}: {reason}"

/-- Makes a descriptor stand for what another one stands for, or for nothing. If that is not possible
for the one to which complaints go, nobody hears of it. -/
def duplicate (descriptor : Nat) (text : String) : Run Bool := do
  let process ← getProcess
  match text.toList with
  | ['-'] =>
      modifyProcess (·.withDescriptor descriptor none)
      return true
  | [c] =>
      if !c.isDigit then failWith "Syntax error: Bad fd number"
      match process.descriptor? (Text.digitValue c) with
      | some found =>
          modifyProcess (·.withDescriptor descriptor (some found))
          return true
      | none =>
          if descriptor != 2 then complain s!"{text}: Bad file descriptor"
          return false
  | _ => failWith "Syntax error: Bad fd number"

def redirect (run : Runner) : Redirection → Run Bool
  | .document descriptor body => do
      let text ← expandText run body
      let source ← newSource (.ofBytes (← get).clock (ByteText.toBytes text))
      modifyProcess (·.withDescriptor descriptor (some source))
      return true
  | .file descriptor direction target => do
      let text ← expandText run target
      let refuse (message : String) : Run Bool := do
        complain message
        return false
      let connect (opened : Except SystemError Descriptor) (action missing : String) :
          Run Bool := do
        match opened with
        | .ok found =>
            modifyProcess (·.withDescriptor descriptor (some found))
            return true
        | .error cause => refuse (openFailure action text missing cause)
      let output (empties : Bool) : Run Bool := do
        connect (← openOutput text empties) "create" "Directory nonexistent"
      match direction with
      | .duplicate _ => duplicate descriptor text
      | .append => output false
      | .overwrite => output true
      | .write => do
          let system ← get
          if system.process.has 'C' && system.hasFile text then
            refuse s!"cannot create {text}: File exists"
          else output true
      | .read => do connect (← openInput text) "open" "No such file"

def redirectAll (run : Runner) : List Redirection → Run Bool
  | [] => return true
  | redirection :: rest => do
      if ← redirect run redirection then redirectAll run rest else return false

/-- Runs a part of a script with redirections, or what is to be done if they are not possible. Other
changes of descriptors last. -/
def redirected (run : Runner) (redirections : List Redirection) (body failure : Run Unit) :
    Run Unit := do
  let before ← getProcess
  let undo (process : Process) (redirection : Redirection) : Process :=
    let number := redirection.descriptor
    process.withDescriptor number (before.descriptor? number)
  ensuring (do if ← redirectAll run redirections then body else failure)
    (modifyProcess fun process => redirections.foldl undo process)

end OptionSchema.Shell
