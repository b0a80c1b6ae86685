import OptionSchema.Shell.Builtin.Basic
import OptionSchema.Shell.Field
import OptionSchema.Shell.Options

/-!
# Builtins for options, arguments, variables and the directory

Options and arguments are set, variables are read, exported and forgotten, and the directory is
changed.
-/

namespace OptionSchema.Shell.Builtin

def shift : Builtin := fun args => do
  let process ← getProcess
  let count ←
    match args with
    | [] => pure 1
    | text :: _ => numberArgument text
  if process.args.length < count then failWith "can't shift that many"
  modifyProcess fun process =>
    { process with args := process.args.drop count, cursor := .start, status := 0 }

def sets : Builtin := fun args => do
  setStatus 0
  match readOptions false ⟨(← getProcess).options, false, none⟩ args with
  | .error text => failWith s!"Illegal option {text}"
  | .ok options =>
      modifyProcess fun process =>
        { process with
          options := options.letters
          args := options.rest?.getD process.args
          cursor := if options.rest?.isSome then .start else process.cursor }

def exports : Builtin := fun args => do
  setStatus 0
  for arg in args do
    let (name, value) := arg.toList.span (· != '=')
    if !isName name then failWith s!"{String.ofList name}: bad variable name"
    if !value.isEmpty then assign (String.ofList name) (String.ofList value.tail)
    markExported (String.ofList name)

def unset : Builtin := fun args => do
  setStatus 0
  for name in args do
    if !isName name.toList then failWith s!"{name}: bad variable name"
    modifyProcess (·.withVariable name none)

/-! ## The directory -/

def placeText (place : List String) : String :=
  "/" ++ "/".intercalate place

def printDirectory : Builtin := fun _ => do
  setStatus 0
  output (placeText (← getProcess).directory ++ "\n")

def changeDirectory : Builtin := fun args => do
  let system ← get
  let process := system.process
  let target := args.headD ((process.value? "HOME").getD "")
  let path := if target == "-" then (process.value? "OLDPWD").getD "" else target
  let path := if path.isEmpty then "." else path
  match system.files.resolve process.directory path with
  | .error _ => failWith s!"can't cd to {path}"
  | .ok place =>
      if !system.files.isDirectory place then failWith s!"can't cd to {path}"
      modifyProcess fun process => { process with directory := place, status := 0 }
      assign "OLDPWD" (placeText process.directory)
      assign "PWD" (placeText place)
      if target == "-" then output (placeText place ++ "\n")

/-! ## Reading

A line of the input is cut into as many fields as there are variables. A backslash protects a
character, and joins the line with the next one at its end. -/

/-- The characters of a line, each with whether a backslash protects it, the number of bytes that
are read for it, and whether its end has been read. -/
def lineOf (raw : Bool) : List Char → List (Char × Bool) × Nat × Bool
  | [] => ([], 0, false)
  | '\n' :: _ => ([], 1, true)
  | c :: d :: rest =>
      if c == '\\' && !raw then
        let (line, count, ends) := lineOf raw rest
        (if d == '\n' then line else (d, true) :: line, count + 2, ends)
      else
        let (line, count, ends) := lineOf raw (d :: rest)
        ((c, false) :: line, count + 1, ends)
  | [c] => (if c == '\\' && !raw then [] else [(c, false)], 1, false)

def read : Builtin := fun args => do
  let (options, names) ← takeOptions [('p', true), ('r', false)] args
  let raw := options.any (·.1 == 'r')
  if names.isEmpty then failWith "arg count"
  let system ← get
  let flow := (system.input 0).toOption.getD (.empty system.clock)
  let (line, count, ends) := lineOf raw (ByteText.ofBytes flow.bytes).toList
  match if ends then (flow.take 0 count).endTime? else flow.endTime? with
  | none => throw .endless
  | some time =>
      waitUntil time
      setInput 0 (flow.drop count)
      let fields := cutLine (← getProcess).separators names.length (line.filter (·.1 != '\x00'))
      for (name, i) in names.zipIdx do
        if !isName name.toList then failWith s!"{name}: bad variable name"
        assign name (fields.getD i "")
      setStatus (if ends then 0 else 1)

end OptionSchema.Shell.Builtin
