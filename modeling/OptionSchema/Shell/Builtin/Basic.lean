import OptionSchema.Shell.Isolation
import OptionSchema.Shell.Options

/-!
# Builtins and their options

The commands that a shell carries out by itself. A builtin gets its arguments and sets the status.
-/

namespace OptionSchema.Shell

abbrev Builtin :=
  List String → Run Unit

def output (text : String) : Run Unit := do
  if !(← writeText 1 text) then
    let process ← getProcess
    complain ((process.builtin?.getD "") ++ ": I/O error")
    setStatus 1

def takeOptions (allowed : List (Char × Bool)) (args : List String) :
    Run (List (Char × String) × List String) := do
  let illegal (c : Char) : String := s!"Illegal option -{String.ofList [c]}"
  let bare (c : Char) : String := s!"No arg for -{String.ofList [c]} option"
  match lettersFrom ⟨allowed, illegal, bare⟩ (args.length + 1) args with
  | .ok result => return result
  | .error message => failWith message

end OptionSchema.Shell
