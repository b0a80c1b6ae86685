import OptionSchema.Evaluation.Command
import OptionSchema.Proofs.Evaluation.Quoting

/-!
# The arguments of a request

What the arguments of an evaluator program say of the request. A named argument that can be absent is
told from what comes behind it by its name (`optionalArgument_append_inj`), whatever the values are.
So requests with the same special arguments and the same arguments have the same module text, the same
packages and the same options path (`same_of_commandArgs`).
-/

namespace OptionSchema.Evaluation

variable {name other : String} {value? value'? : Option String} {args rest rest' : List String}
variable {directory directory' : WorkingDirectory} {request request' : Request}

/-! ## Named arguments -/

/-- No argument of this name stands at the start. -/
def LacksFirst (name : String) (args : List String) : Prop :=
  ∀ more, args ≠ "--arg" :: name :: more

theorem lacksFirst_nil : LacksFirst name [] :=
  nofun

theorem LacksFirst.optionalArgument (different : other ≠ name) (lacks : LacksFirst name rest) :
    LacksFirst name (optionalArgument other value? ++ rest) := by
  cases value? with
  | none => exact lacks
  | some value =>
      intro more same
      exact different (List.cons.inj (List.cons.inj same).2).1

/-- Whether a named argument is there, and its value, can be told from what is behind it if that does
not start with the name. -/
theorem optionalArgument_append_inj (lacks : LacksFirst name rest) (lacks' : LacksFirst name rest')
    (same : optionalArgument name value? ++ rest = optionalArgument name value'? ++ rest') :
    value? = value'? ∧ rest = rest' := by
  cases value? with
  | none =>
      cases value'? with
      | none => exact ⟨rfl, same⟩
      | some value' => exact absurd same (lacks _)
  | some value =>
      cases value'? with
      | none => exact absurd same.symm (lacks' _)
      | some value' =>
          simp only [optionalArgument, argument, List.cons_append, List.nil_append,
            List.cons.injEq, true_and] at same
          exact ⟨congrArg some same.1, same.2⟩

/-! ## The options path -/

/-- Requests with the same list of names have the same options path. -/
theorem Request.optionsPath_inj (same : request.optionsPathList? = request'.optionsPathList?) :
    request.optionsPath = request'.optionsPath := by
  cases list : request.optionsPathList? with
  | none =>
      rw [optionsPathList?_eq_none_iff.mp list,
        optionsPathList?_eq_none_iff.mp (same.symm.trans list)]
  | some text =>
      have read := (readStrings_optionsPathList list).symm.trans
        (readStrings_optionsPathList (same.symm.trans list))
      exact List.map_injective_iff.mpr (fun _ _ => String.toList_inj.mp) (Option.some.inj read)

/-! ## All arguments -/

def Request.leadingArguments (request : Request) (module : String) : List String :=
  argument "module" module ++ optionalArgument "pkgs" request.pkgs? ++
    optionalArgument "specialArgs" request.specialArgsSet?

namespace CommandProvider

variable {provider : CommandProvider}

/-- The arguments of a request stand between those of the program. -/
theorem commandArgs_eq_ok_iff : provider.commandArgs directory request = .ok args ↔
    ∃ module, request.locator.text directory = .ok module ∧
      args = provider.args ++ (request.leadingArguments module ++
        optionalArgument "optionsPath" request.optionsPathList?) ++ provider.trailing := by
  rw [commandArgs, Request.arguments]
  cases request.locator.text directory with
  | error error => exact iff_of_false nofun (by simp)
  | ok module =>
      simp [Request.leadingArguments, bind, Except.bind, pure, Except.pure, eq_comm]

/-- Requests with the same special arguments and the same arguments agree in all that the evaluator
is told. -/
theorem same_of_commandArgs (stated : provider.commandArgs directory request = .ok args)
    (stated' : provider.commandArgs directory' request' = .ok args)
    (special : request.specialArgs = request'.specialArgs) :
    (∃ module, request.locator.text directory = .ok module ∧
      request'.locator.text directory' = .ok module) ∧
    request.pkgs? = request'.pkgs? ∧ request.optionsPath = request'.optionsPath := by
  obtain ⟨module, text, rfl⟩ := commandArgs_eq_ok_iff.mp stated
  obtain ⟨module', text', same⟩ := commandArgs_eq_ok_iff.mp stated'
  have sets : request'.specialArgsSet? = request.specialArgsSet? := by
    rw [Request.specialArgsSet?, Request.specialArgsSet?, special]
  have between := List.append_cancel_left (List.append_cancel_right same)
  simp only [Request.leadingArguments, sets, argument, List.append_assoc, List.cons_append,
    List.nil_append, List.cons.injEq, true_and] at between
  obtain ⟨rfl, behind⟩ := between
  have lacks {path? : Option String} : LacksFirst "pkgs" (optionalArgument "specialArgs"
      request.specialArgsSet? ++ optionalArgument "optionsPath" path?) := by
    rw [← List.append_nil (optionalArgument "optionsPath" path?)]
    exact .optionalArgument (by decide) (.optionalArgument (by decide) lacksFirst_nil)
  obtain ⟨packages, others⟩ := optionalArgument_append_inj lacks lacks behind
  have lists : request.optionsPathList? = request'.optionsPathList? := by
    have last := List.append_cancel_left others
    rw [← List.append_nil (optionalArgument _ request.optionsPathList?),
      ← List.append_nil (optionalArgument _ request'.optionsPathList?)] at last
    exact (optionalArgument_append_inj lacksFirst_nil lacksFirst_nil last).1
  exact ⟨⟨module, text, text'⟩, packages, Request.optionsPath_inj lists⟩

/-- The argument of the options path comes last of the request. It is there unless the path is empty,
and is read as the names of the path. -/
theorem readStrings_optionsPath (stated : provider.commandArgs directory request = .ok args)
    (filled : request.optionsPath ≠ []) :
    ∃ before list, args = before ++ argument "optionsPath" list ++ provider.trailing ∧
      readStrings list.toList = some (request.optionsPath.map String.toList) := by
  obtain ⟨module, -, rfl⟩ := commandArgs_eq_ok_iff.mp stated
  cases list : request.optionsPathList? with
  | none => exact absurd (Request.optionsPathList?_eq_none_iff.mp list) filled
  | some text =>
      refine ⟨provider.args ++ request.leadingArguments module, text, ?_,
        Request.readStrings_optionsPathList list⟩
      rw [optionalArgument, ← List.append_assoc provider.args]

end CommandProvider

/-- Quoting is exact and arguments are unambiguous: a quoted text is one string, without an
interpolation, that denotes the text, and the argument of the options path is read as its names.
Requests with the same special arguments get the same arguments only if they have the same module
text, the same packages and the same options path. -/
theorem arguments_unambiguous :
    (∀ text : String, ∀ rest, readString ((quote text).toList ++ rest) = some (text.toList, rest)) ∧
    ∀ (provider : CommandProvider) (directory : WorkingDirectory) (request : Request)
      (args : List String), provider.commandArgs directory request = .ok args →
      (request.optionsPath ≠ [] → ∃ before list,
        args = before ++ argument "optionsPath" list ++ provider.trailing ∧
        readStrings list.toList = some (request.optionsPath.map String.toList)) ∧
      ∀ (directory' : WorkingDirectory) (request' : Request),
        provider.commandArgs directory' request' = .ok args →
        request.specialArgs = request'.specialArgs →
        (∃ module, request.locator.text directory = .ok module ∧
          request'.locator.text directory' = .ok module) ∧
        request.pkgs? = request'.pkgs? ∧ request.optionsPath = request'.optionsPath := by
  refine ⟨fun text rest => ?_, fun provider directory request args stated =>
    ⟨CommandProvider.readStrings_optionsPath stated, fun directory' request' stated' special =>
      CommandProvider.same_of_commandArgs stated stated' special⟩⟩
  rw [quote, String.toList_ofList]
  exact readString_quotedString text.toList rest

/-- An evaluator with an argument behind those of the request. -/
def trailingProvider : CommandProvider :=
  ⟨"evaluate", ["--strict"], ["-"], none, none⟩

/-- A request for an option whose name has a quote, an interpolation and a backslash in it. -/
def interpolatedRequest (locator : Locator) : Request :=
  ⟨locator, none, .ofPairs [("lib", "l")], ["a", "\"$\x7bb\x7d\\"]⟩

def interpolatedArguments : List String :=
  ["--strict", "--arg", "module", "/m", "--arg", "specialArgs", "\x7b \"lib\" = l; \x7d",
    "--arg", "optionsPath", "[ \"a\" \"\\\"\\$\x7bb\x7d\\\\\" ]", "-"]

/-- The arguments are the same for an expression and for a file whose absolute path it is. -/
theorem arguments_unambiguous_interpolated :
    (∃ before list, interpolatedArguments = before ++ argument "optionsPath" list ++ ["-"] ∧
      readStrings list.toList = some [['a'], ['"', '$', '{', 'b', '}', '\\']]) ∧
    ∃ module, (Locator.expression "/m").text (.ok ⟨#[]⟩) = .ok module ∧
      (Locator.path "m".toUTF8).text (.ok "/".toUTF8) = .ok module := by
  have stated : trailingProvider.commandArgs (.ok ⟨#[]⟩)
      (interpolatedRequest (.expression "/m")) = .ok interpolatedArguments := by
    decide +kernel
  have stated' : trailingProvider.commandArgs (.ok "/".toUTF8)
      (interpolatedRequest (.path "m".toUTF8)) = .ok interpolatedArguments := by
    decide +kernel
  obtain ⟨path, others⟩ := arguments_unambiguous.2 _ _ _ _ stated
  exact ⟨path (by decide), (others _ _ stated' rfl).1⟩

end OptionSchema.Evaluation
