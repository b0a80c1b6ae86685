import OptionSchema.FileStore
import OptionSchema.Shell.Numeric

/-!
# Conditions

The conditions that `test` decides: comparisons of texts and numbers, properties of texts and files,
and their negations. What a word means depends on the number of words.
-/

namespace OptionSchema.Shell.Condition

inductive Fault where
  | unexpectedOperator (text : String)
  | missingBracket
  | notANumber (text : String)
  deriving DecidableEq

def Fault.message : Fault → String
  | .unexpectedOperator text => s!"{text}: unexpected operator"
  | .missingBracket => "missing ]"
  | .notANumber text => s!"Illegal number: {text}"

structure Files where
  store : FileStore
  directory : List String

def number (word : String) : Except Fault Int :=
  match decimalInteger? word with
  | some value => .ok value
  | none => .error (.notANumber word)

def binaries : List String :=
  ["=", "!=", "-eq", "-ne", "-ge", "-gt", "-le", "-lt"]

def compare (name first second : String) : Except Fault Bool :=
  let numbers (holds : Int → Int → Bool) : Except Fault Bool :=
    return holds (← number first) (← number second)
  match name with
  | "=" => .ok (first == second)
  | "!=" => .ok (first != second)
  | "-eq" => numbers (· == ·)
  | "-ne" => numbers (· != ·)
  | "-ge" => numbers fun a b => b ≤ a
  | "-gt" => numbers fun a b => b < a
  | "-le" => numbers fun a b => a ≤ b
  | _ => numbers fun a b => a < b

def unaries : List String :=
  ["-n", "-z", "-e", "-f", "-d", "-r", "-s"]

def Files.has (files : Files) (property text : String) : Bool :=
  match property, files.store.resolve files.directory text with
  | "-n", _ => !text.isEmpty
  | "-z", _ => text.isEmpty
  | _, .error _ => false
  | property, .ok place =>
      let isDirectory := files.store.isDirectory place
      let contents? := files.store.read? place
      match property with
      | "-d" => isDirectory
      | "-f" => contents?.isSome && place.dropLast != ["dev"]
      | "-s" => isDirectory || contents?.any (0 < ·.size)
      | _ => isDirectory || contents?.isSome

def decide (files : Files) : List String → Except Fault Bool
  | [] => .ok false
  | [word] => .ok (!word.isEmpty)
  | ["!", word] => .ok word.isEmpty
  | [name, word] =>
      if unaries.contains name then .ok (files.has name word)
      else .error (.unexpectedOperator name)
  | [first, name, second] =>
      if binaries.contains name then compare name first second
      else if first == "!" then Except.map (!·) (decide files [name, second])
      else .error (.unexpectedOperator first)
  | first :: second :: rest =>
      if first == "!" then Except.map (!·) (decide files (second :: rest))
      else .error (.unexpectedOperator first)

end OptionSchema.Shell.Condition
