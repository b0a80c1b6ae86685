import OptionSchema.FileStore
import OptionSchema.Shell.Command
import OptionSchema.Shell.Flow
import OptionSchema.Shell.Numeric

/-!
# The system of a shell

A shell runs as one of several processes that share streams and files. Every write bears the time at
which it is made, so that what processes write side by side can be put in order later. Times are in
milliseconds, and only waiting takes time.
-/

namespace OptionSchema.Shell

/-- What a descriptor stands for: a flow that is read, a stream that is written, or a file at the
end of which is written. -/
inductive Descriptor where
  | source (number : Nat)
  | stream (number : Nat)
  | file (place : List String)
  deriving DecidableEq

/-- Where `getopts` goes on: at an argument, counted from one, and behind a number of characters of
the argument before it if that has more letters. -/
structure Cursor where
  next : Nat
  offset? : Option Nat

def Cursor.start : Cursor :=
  ⟨1, none⟩

/-- How a process ends, if it does: when, with which status, and by which signal. -/
inductive Exit where
  | ended (time status : Nat) (signal? : Option Nat)
  | never

/-- What a shell knows and has been told. `first` is the number of the first shell, `tested` says
that a failure of the command that runs is only a test, `jobs` are the processes in the background,
the newest one first, `loops` and `calls` tell how deep it is in loops and functions, `builtin?` is
the builtin that runs, and `substituted?` the status of the last substitution. -/
structure Process where
  number : Nat
  first : Nat
  name : String
  args : List String
  bindings : List (String × String)
  exported : List String
  functions : List (String × Command)
  status : Nat
  options : List Char
  tested : Bool
  descriptors : List (Nat × Descriptor)
  jobs : List (Nat × Exit)
  loops : Nat
  calls : Nat
  directory : List String
  line : Nat
  builtin? : Option String
  substituted? : Option Nat
  cursor : Cursor

/-- The processes and what they share: the shell that runs, the time, how many commands may still
run, the number of the next process, the writes to each stream with their times, the flows that are
read, the files, and until which ends streams are kept open by jobs. -/
structure System where
  process : Process
  clock : Nat
  budget : Nat
  started : Nat
  streams : Array (Array (Nat × ByteArray))
  sources : Array Flow
  files : FileStore
  holds : List (Nat × Exit)

/-- Why a command does not go on: the shell ends, ends because of an error, is killed or runs for
ever, or the commands of a loop or a function are left. -/
inductive Jump where
  | exited
  | failed
  | killed (signal : Nat)
  | endless
  | leave (loops : Nat)
  | next (loops : Nat)
  | returned

abbrev Run :=
  ExceptT Jump (StateM System)

def outputStream : Nat :=
  0

def errorStream : Nat :=
  1

def modifyProcess (change : Process → Process) : Run Unit :=
  modify fun system => { system with process := change system.process }

def getProcess : Run Process :=
  return (← get).process

def setStatus (status : Nat) : Run Unit :=
  modifyProcess fun process => { process with status }

def waitUntil (time : Nat) : Run Unit :=
  modify fun system => { system with clock := max system.clock time }

namespace Process

def has (process : Process) (option : Char) : Bool :=
  process.options.contains option

def value? (process : Process) (name : String) : Option String :=
  process.bindings.lookup name

def separators (process : Process) : List Char :=
  ((process.value? "IFS").map String.toList).getD [' ', '\t', '\n']

def withVariable (process : Process) (name : String) (value? : Option String) : Process :=
  let others := process.bindings.filter (·.1 != name)
  { process with bindings := (value?.map (name, ·)).toList ++ others }

def descriptor? (process : Process) (number : Nat) : Option Descriptor :=
  process.descriptors.lookup number

def withDescriptor (process : Process) (number : Nat) (descriptor? : Option Descriptor) : Process :=
  let others := process.descriptors.filter (·.1 != number)
  { process with descriptors := (descriptor?.map (number, ·)).toList ++ others }

def heldStreams (process : Process) : List Nat :=
  process.descriptors.filterMap fun
    | (_, .stream number) => some number
    | _ => none

end Process

/-- Whether a place is that of a device, which keeps nothing that is written to it. -/
def isDevice (place : List String) : Bool :=
  place.dropLast == ["dev"]

namespace System

def contents (system : System) (place : List String) : Except SystemError Flow :=
  if system.files.isDirectory place then .error .isADirectory
  else if place == ["dev", "zero"] then .ok ⟨[], .repeating ⟨#[0]⟩⟩
  else
    match system.files.read? place with
    | some bytes => .ok (.ofBytes system.clock bytes)
    | none => .error .noSuchFile

def writeFile (system : System) (place : List String) (bytes : ByteArray) : System :=
  if isDevice place then system
  else
    let before := (system.files.read? place).getD .empty
    { system with files := system.files.put place (before ++ bytes) }

def later (first second : Exit) : Exit :=
  match first, second with
  | .ended time status signal?, .ended other _ _ => .ended (max time other) status signal?
  | _, _ => .never

/-- When a stream is closed that a process keeps open until its end, given that the jobs started in
the meantime can keep it open for longer. -/
def closing (system : System) (stream : Nat) (exit : Exit) : Exit :=
  system.holds.foldl (fun exit hold => if hold.1 == stream then later exit hold.2 else exit) exit

def flow (system : System) (stream : Nat) (exit : Exit) : Flow :=
  let writes := (system.streams.getD stream #[]).toList
  let pieces := writes.mergeSort fun first second => first.1 ≤ second.1
  match system.closing stream exit with
  | .ended time _ _ => ⟨pieces, .closed time⟩
  | .never => ⟨pieces, .stalled⟩

def input (system : System) (descriptor : Nat) : Except SystemError Flow :=
  match system.process.descriptor? descriptor with
  | some (.source number) => .ok (system.sources.getD number (.empty system.clock))
  | _ => .error .badDescriptor

end System

def newStream : Run Nat := do
  let system ← get
  set { system with streams := system.streams.push #[] }
  return system.streams.size

def newSource (flow : Flow) : Run Descriptor := do
  let system ← get
  set { system with sources := system.sources.push flow }
  return .source system.sources.size

def setInput (descriptor : Nat) (flow : Flow) : Run Unit :=
  modify fun system =>
    match system.process.descriptor? descriptor with
    | some (.source number) =>
        { system with sources := system.sources.setIfInBounds number flow }
    | _ => system

def writeAt (time : Nat) (descriptor? : Option Descriptor) (bytes : ByteArray) : Run Bool := do
  let system ← get
  if bytes.isEmpty then return true
  match descriptor? with
  | some (.stream number) =>
      set { system with streams := system.streams.modify number (·.push (time, bytes)) }
      return true
  | some (.file place) =>
      set (system.writeFile place bytes)
      return true
  | _ => return false

def writeTo (descriptor? : Option Descriptor) (text : String) : Run Bool := do
  writeAt (← get).clock descriptor? (ByteText.toBytes text)

def writeText (number : Nat) (text : String) : Run Bool := do
  writeTo ((← getProcess).descriptor? number) text

def complain (message : String) : Run Unit := do
  let process ← getProcess
  let place := s!"{process.name}: {Text.decimal process.line}: "
  let builtin := (process.builtin?.map (· ++ ": ")).getD ""
  let _ ← writeText 2 (place ++ builtin ++ message ++ "\n")

def failWith {α : Type} (message : String) : Run α := do
  complain message
  setStatus 2
  throw .failed

def numberArgument (text : String) : Run Nat := do
  match decimalInteger? text with
  | some (.ofNat number) =>
      if number < 0x8000_0000 then return number
      failWith s!"Illegal number: {text}"
  | _ => failWith s!"Illegal number: {text}"

/-- Gives a variable a value. That of `OPTIND` moves the cursor of `getopts`. -/
def assign (name value : String) : Run Unit := do
  if name == "OPTIND" then
    let next := max 1 (← numberArgument value)
    modifyProcess fun process => { process with cursor := ⟨next, none⟩ }
  modifyProcess (·.withVariable name (some value))

def markExported (name : String) : Run Unit :=
  modifyProcess fun process => { process with exported := name :: process.exported }

end OptionSchema.Shell
