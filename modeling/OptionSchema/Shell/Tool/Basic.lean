import OptionSchema.Shell.Flow
import OptionSchema.Shell.Options
import OptionSchema.SystemError

/-!
# Calls of tools

A tool turns its arguments, its input and the files that it names into output and complaints.
-/

namespace OptionSchema.Shell

structure Call where
  name : String
  args : List String
  time : Nat
  input : Except SystemError Flow
  file : String → Except SystemError Flow

/-- A step of a tool: it writes until what it writes ends, or it complains. -/
inductive Step where
  | write (flow : Flow)
  | complain (message : String)

/-- What a tool does, one step after the other, its status, and what it leaves of its input if it
reads that. -/
structure Reply where
  steps : List Step
  status : Nat
  left? : Option Flow

abbrev Tool :=
  Call → Reply

namespace Call

def done (_ : Call) (status : Nat) : Reply :=
  ⟨[], status, none⟩

def text (call : Call) (text : String) : Step :=
  .write (.ofBytes call.time (ByteText.toBytes text))

def complaint (call : Call) (message : String) : Step :=
  .complain s!"{call.name}: {message}\n"

def fail (call : Call) (message : String) : Reply :=
  ⟨[call.complaint message], 1, none⟩

def misuse (call : Call) (message : String) : Reply :=
  let hint := Step.complain s!"Try '{call.name} --help' for more information.\n"
  ⟨[call.complaint message, hint], 1, none⟩

def withOptions (call : Call) (allowed : List (Char × Bool)) (args : List String)
    (body : List (Char × String) → List String → Reply) : Reply :=
  let illegal (c : Char) : String := s!"invalid option -- '{String.ofList [c]}'"
  let bare (c : Char) : String := s!"option requires an argument -- '{String.ofList [c]}'"
  match lettersFrom ⟨allowed, illegal, bare⟩ (args.length + 1) args with
  | .ok (options, operands) => body options operands
  | .error fault => call.misuse fault

/-- Adds a file to what has been done, `-` being the input. The input has no name in complaints. -/
def addFile (call : Call) (name : String) (failure : String → String)
    (show_ : Flow → Flow) (leave : Flow → Flow) (reply : Reply) : Reply :=
  let isInput := name == "-"
  match if isInput then call.input.map (reply.left?.getD ·) else call.file name with
  | .ok flow =>
      { reply with
        steps := reply.steps ++ [.write (show_ flow)]
        left? := if isInput then some (leave flow) else reply.left? }
  | .error cause =>
      { reply with
        steps := reply.steps ++ [call.complaint s!"{failure name}: {cause.description}"]
        status := 1 }

end Call

end OptionSchema.Shell
