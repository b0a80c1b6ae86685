import OptionSchema.Shell.Builtin.Basic
import OptionSchema.Shell.Condition
import OptionSchema.Shell.Format

/-!
# Builtins that decide, print and jump

What goes on is decided by a condition, or by leaving loops, functions and the shell. A shell can
wait for the processes that it has started, and end itself by a signal.
-/

namespace OptionSchema.Shell.Builtin

def finish (status : Nat) : Builtin := fun _ =>
  setStatus status

def echo : Builtin := fun args => do
  setStatus 0
  let texts := if args.head? == some "-n" then args.tail else args
  let (text, ends) := escaped (" ".intercalate texts).toList
  let lineEnd := if ends || texts.length < args.length then "" else "\n"
  output (String.ofList text ++ lineEnd)

def printf : Builtin := fun args => do
  setStatus 0
  match (← takeOptions [] args).2 with
  | [] => failWith "usage: printf format [arg ...]"
  | text :: args =>
      let printed := print text args
      for complaint in printed.complaints do
        complain complaint.message
        setStatus (if complaint.isFatal then 2 else 1)
      output (String.ofList printed.text)

def depart (jump : Jump) : Builtin := fun args => do
  match args.head? with
  | some text => setStatus (← numberArgument text)
  | none => pure ()
  throw jump

def leave (jump : Nat → Jump) : Builtin := fun args => do
  let process ← getProcess
  let count ←
    match args with
    | [] => pure 1
    | text :: _ => numberArgument text
  if count == 0 then failWith ("Illegal number: " ++ args.headD "")
  setStatus 0
  if process.loops == 0 then return ()
  throw (jump (min count process.loops))

def decides : Builtin := fun words => do
  let system ← get
  match Condition.decide ⟨system.files, system.process.directory⟩ words with
  | .ok holds => setStatus (if holds then 0 else 1)
  | .error cause => failWith cause.message

def decidesInBrackets : Builtin := fun words => do
  if words.getLast? == some "]" then decides words.dropLast
  else failWith Condition.Fault.missingBracket.message

def killUsage : String :=
  "Usage: kill [-s sigspec | -signum | -sigspec] [pid | job]... or\nkill -l [exitstatus]"

def signalNumber? (text : String) : Option Nat :=
  natural? text <|>
    (signals.find? fun (_, name, _) => name == text.map Char.toUpper).map Prod.fst

/-- Ends the shell by a signal. No signal reaches another process. -/
def kill : Builtin := fun args => do
  let send (signal : Nat) (targets : List String) : Run Unit := do
    if targets.isEmpty then failWith killUsage
    setStatus 0
    for target in targets do
      if (← numberArgument target) == (← getProcess).number then throw (.killed signal)
      complain "No such process\n"
      setStatus 1
  let direct? :=
    match (args.headD "").toList with
    | '-' :: text => signalNumber? (String.ofList text)
    | _ => none
  match direct? with
  | some signal => send signal args.tail
  | none => do
      let (options, targets) ← takeOptions [('s', true)] args
      let name := (options.getLast?.map Prod.snd).getD "TERM"
      match signalNumber? name with
      | some signal => send signal targets
      | none => failWith s!"invalid signal number or name: {name}"

def wait : Builtin := fun args => do
  let jobs := (← getProcess).jobs
  if args.isEmpty then
    for (_, exit) in jobs do
      waitFor exit
    setStatus 0
  else
    for target in args do
      match jobs.lookup (← numberArgument target) with
      | some exit => waitFor exit
      | none => setStatus 127

end OptionSchema.Shell.Builtin
