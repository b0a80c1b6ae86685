import OptionSchema.Evaluation.Request
import OptionSchema.Text.Piece

/-!
# Evaluating by a program

An evaluator program gets a request as arguments and prints the wire form of the module. Before it
is started, every expression of the request can be checked by another program; the first check that
fails ends the evaluation. Every program that is started is subject to the timeout and to
cancellation.
-/

namespace OptionSchema.Evaluation

/-! ## Diagnostics

An evaluator that fails says why on its error stream. The message is what follows `error: ` at the
start of a line, after blanks; if there is no such place, it is all of the stream. -/

def errorMark : List Char :=
  "error: ".toList

/-- The rest of the line behind the first error mark that follows a line start and blanks; these may
go over several lines. `atLineStart` says whether the text starts a line. -/
def errorLine? (atLineStart : Bool) : List Char → Option (List Char)
  | [] => none
  | c :: rest =>
      let candidate := Text.trimStart (c :: rest)
      if atLineStart && errorMark.isPrefixOf candidate then
        some ((candidate.drop errorMark.length).takeWhile (· != '\n'))
      else errorLine? (c == '\n') rest

/-- The message in an error stream, without blanks at its end. -/
def diagnostic (stream : List Char) : List Char :=
  Text.trimEnd ((errorLine? true stream).getD stream)

/-! ## Evaluating -/

structure Checker where
  program : String
  args : List String
  deriving DecidableEq

/-- An evaluator program: its own arguments, those behind the arguments of the request, the checker
of expressions if there is one, and the timeout if there is one. -/
structure CommandProvider where
  program : String
  args : List String
  trailing : List String
  checker? : Option Checker
  timeout? : Option Nat
  deriving DecidableEq

abbrev Evaluate :=
  ExceptT EvaluationError (StateM Session)

namespace CommandProvider

def commandArgs (provider : CommandProvider) (directory : WorkingDirectory) (request : Request) :
    Except EvaluationError (List String) := do
  let arguments ← request.arguments directory
  return provider.args ++ arguments ++ provider.trailing

def describe (provider : CommandProvider) : String :=
  s!"command `{provider.program}`"

/-- Starts a program and waits for it and then for the end of its streams. `cancelAt?` is the time
of the cancellation, if there is one. -/
def run (provider : CommandProvider) (programs : Programs) (cancelAt? : Option Nat)
    (program : String) (args : List String) : Evaluate ProcessRun := do
  let session ← get
  let start := session.clock
  set ({ session with spawns := ⟨start, program, args⟩ :: session.spawns } : Session)
  match programs program args with
  | .refused cause => throw (.spawn program cause)
  | .started process =>
      let passed (time : Nat) : Evaluate Unit :=
        modify fun session => { session with clock := start + time }
      match waitEnd process.duration (cancelAt?.map (· - start)) provider.timeout? with
      | .finished =>
          passed (max process.duration process.closing)
          return process
      | .cancelled look =>
          passed (look * pollInterval)
          throw .cancelled
      | .timedOut look =>
          passed (look * pollInterval)
          throw (.timedOut (provider.timeout?.getD 0))

def messageOf (process : ProcessRun) : String :=
  String.ofList (diagnostic (Text.lossy process.errors))

/-- The expressions of a request in the order in which they are checked, each with the name of the
part that it is. -/
def checkedParts (request : Request) : List (String × String) :=
  (match request.locator with
    | .path _ => []
    | .expression text => [("module expression", text)]) ++
    (request.pkgs?.map (("pkgs expression", ·))).toList ++
    request.specialArgs.entries.map (fun (name, text) =>
      (s!"specialArgs at {Text.quotedText name}", text)) ++
    (request.specialArgsSet?.map (("specialArgs", ·))).toList

def checkPart (provider : CommandProvider) (programs : Programs) (cancelAt? : Option Nat)
    (checker : Checker) (part text : String) : Evaluate Unit := do
  let args := checker.args ++ ["--parse", "--expr", text]
  let process ← provider.run programs cancelAt? checker.program args
  if process.success then return ()
  else throw (.badSyntax part (messageOf process))

def check (provider : CommandProvider) (programs : Programs) (cancelAt? : Option Nat)
    (request : Request) : Evaluate Unit :=
  match provider.checker? with
  | none => return ()
  | some checker =>
      (checkedParts request).forM fun (part, text) =>
        provider.checkPart programs cancelAt? checker part text

/-- Evaluates a request. A cancellation before the start is noticed at once. -/
def evaluate (provider : CommandProvider) (programs : Programs) (directory : WorkingDirectory)
    (cancelAt? : Option Nat) (request : Request) : Evaluate ByteArray := do
  let session ← get
  if cancelAt?.any (· ≤ session.clock) then throw .cancelled
  provider.check programs cancelAt? request
  let args ← provider.commandArgs directory request
  let process ← provider.run programs cancelAt? provider.program args
  if process.success then return process.output
  else throw (.diagnostic (messageOf process))

/-- What comes of an evaluation that starts a session, and the programs that it starts, in order. -/
def outcome (provider : CommandProvider) (programs : Programs) (directory : WorkingDirectory)
    (cancelAt? : Option Nat) (request : Request) :
    Except EvaluationError ByteArray × List Spawn :=
  let (result, session) := (provider.evaluate programs directory cancelAt? request).run.run .start
  (result, session.spawns.reverse)

end CommandProvider

end OptionSchema.Evaluation
