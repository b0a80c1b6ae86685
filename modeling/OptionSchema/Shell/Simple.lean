import OptionSchema.Shell.Builtin
import OptionSchema.Shell.Launch

/-!
# Simple commands

The first field of a command names a builtin, a function or a program; assignments in front of it
hold for it only, unless it is a special builtin.
-/

namespace OptionSchema.Shell

/-- Runs a builtin. An error ends the shell only if the builtin is special. -/
def runBuiltin (name : String) (special : Bool) (body : Run Unit) : Run Unit := do
  let before := (← getProcess).builtin?
  modifyProcess fun process => { process with builtin? := some name }
  let jump? ← attempt body
  modifyProcess fun process => { process with builtin? := before }
  match jump?, special with
  | none, _ => return ()
  | some .failed, false => return ()
  | some jump, _ => throw jump

def assignAll (run : Runner) : List Assignment → Run (List (String × String))
  | [] => return []
  | .mk name word :: rest => do
      let value ← expandText run word
      assign name value
      return (name, value) :: (← assignAll run rest)

/-- Runs a part of a script with exported variables that are as before behind it. -/
def withVariables (run : Runner) (assignments : List Assignment)
    (body : List (String × String) → Run Unit) : Run Unit := do
  let before ← getProcess
  let restore (process : Process) : Assignment → Process
    | .mk name _ => process.withVariable name (before.value? name)
  ensuring (do
    let values ← assignAll run assignments
    values.forM fun (name, _) => markExported name
    body values)
    (modifyProcess fun process =>
      { assignments.foldl restore process with exported := before.exported })

def callLimit : Nat :=
  1000

def callFunction (run : Runner) (body : Command) (args : List String) : Run Unit := do
  let before ← getProcess
  if callLimit ≤ before.calls then
    failWith s!"Maximum function recursion depth ({Text.decimal callLimit}) reached"
  let change (args : List String) (cursor : Cursor) (loops calls : Nat) : Run Unit :=
    modifyProcess fun process => { process with args, cursor, loops, calls }
  change args .start 0 (before.calls + 1)
  let jump? ← attempt (run body)
  change before.args before.cursor before.loops before.calls
  match jump? with
  | none => return ()
  | some .returned => return ()
  | some jump => throw jump

def shellBuiltin? (run : Runner) (name : String) : Option Builtin :=
  match name with
  | "eval" => some fun args => runScript run (" ".intercalate args)
  | "exec" => some fun
      | [] => setStatus 0
      | name :: args => runOther run true name args
  | name => builtin? name

def trace (before : Process) (values : List (String × String)) (fields : List String) :
    Run Unit := do
  let process ← getProcess
  if process.has 'x' then
    let assignments := values.map fun (name, value) => s!"{name}={value}"
    let text := " ".intercalate (assignments ++ fields)
    let _ ← writeTo (before.descriptor? 2) ((process.value? "PS4").getD "" ++ text ++ "\n")

/-- Runs what fields call. The redirections of `exec` without arguments last. -/
def runCalled (run : Runner) (assignments : List Assignment) (redirections : List Redirection)
    (name : String) (args : List String) : Run Unit := do
  let before ← getProcess
  let special := specialBuiltins.contains name
  let failure : Run Unit := do
    setStatus 2
    if special then throw .failed
  let withRest (body : Run Unit) : Run Unit :=
    redirected run redirections (withVariables run assignments fun values => do
      trace before values (name :: args)
      body) failure
  match if special then none else before.functions.lookup name, shellBuiltin? run name with
  | some body, _ => withRest (callFunction run body args)
  | none, none => withRest (runOther run false name args)
  | none, some builtin =>
      if !special then withRest (runBuiltin name false (builtin args))
      else
        let body : Run Unit := do
          trace before (← assignAll run assignments) (name :: args)
          runBuiltin name true (builtin args)
        if name == "exec" && args.isEmpty then
          if ← redirectAll run redirections then body else failure
        else redirected run redirections body failure

def runSimple (run : Runner) (line : Nat) (assignments : List Assignment) (words : List Word)
    (redirections : List Redirection) : Run Unit := do
  modifyProcess fun process => { process with line, substituted? := none }
  match ← expandFields run words with
  | [] =>
      let before ← getProcess
      redirected run redirections (do
        trace before (← assignAll run assignments) []
        setStatus ((← getProcess).substituted?.getD 0)) (setStatus 2)
  | name :: args => runCalled run assignments redirections name args

end OptionSchema.Shell
