import OptionSchema.Shell.Builtin.Control
import OptionSchema.Shell.Builtin.Getopts
import OptionSchema.Shell.Builtin.Variables

/-!
# Builtins by their names

The commands that a shell carries out by itself, apart from those that run other commands.
-/

namespace OptionSchema.Shell

def builtin? (name : String) : Option Builtin :=
  match name with
  | ":" => some (Builtin.finish 0)
  | "[" => some Builtin.decidesInBrackets
  | "break" => some (Builtin.leave .leave)
  | "cd" => some Builtin.changeDirectory
  | "continue" => some (Builtin.leave .next)
  | "echo" => some Builtin.echo
  | "exit" => some (Builtin.depart .exited)
  | "export" => some Builtin.exports
  | "false" => some (Builtin.finish 1)
  | "getopts" => some Builtin.getopts
  | "kill" => some Builtin.kill
  | "printf" => some Builtin.printf
  | "pwd" => some Builtin.printDirectory
  | "read" => some Builtin.read
  | "return" => some (Builtin.depart .returned)
  | "set" => some Builtin.sets
  | "shift" => some Builtin.shift
  | "test" => some Builtin.decides
  | "true" => some (Builtin.finish 0)
  | "unset" => some Builtin.unset
  | "wait" => some Builtin.wait
  | _ => none

end OptionSchema.Shell
