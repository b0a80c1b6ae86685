import OptionSchema.Shell.Builtin.Basic

/-!
# The builtin `getopts`

Each call finds the next option among the arguments and puts its letter into a variable. A letter
with a colon behind it in the list of letters has a value. With a colon in front of that list
nothing is complained about.
-/

namespace OptionSchema.Shell.Builtin

/-- Whether a letter is in a list of letters, and whether it has a value there. -/
def letterKind? (letter : Char) : List Char → Option Bool
  | [] => none
  | c :: rest =>
      match rest with
      | ':' :: more => if c == letter then some true else letterKind? letter more
      | more => if c == letter then some false else letterKind? letter more

/-- What a call of `getopts` finds: the letter for the variable, the value of the option if there is
one, a complaint, where to go on, and whether the options have come to an end. -/
structure Found where
  letter : Char
  value? : Option String
  complaint? : Option String
  cursor : Cursor
  ended : Bool

/-- The letters at a cursor, if there are some, and the number of the argument that they are in. -/
def lettersAt (args : List String) (cursor : Cursor) : Option (List Char) × Nat :=
  let before := ((args[cursor.next - 2]?).getD "").toList
  let left := (cursor.offset?.map before.drop).getD []
  if 1 < cursor.next && !left.isEmpty then (some left, cursor.next - 1)
  else
    match (args[cursor.next - 1]?).map String.toList with
    | some ['-', '-'] => (none, cursor.next + 1)
    | some ('-' :: c :: letters) => (some (c :: letters), cursor.next)
    | _ => (none, cursor.next)

def nextOption (letters : List Char) (args : List String) (cursor : Cursor) : Found :=
  let isSilent := letters.head? == some ':'
  let known := if isSilent then letters.drop 1 else letters
  match lettersAt args cursor with
  | (none, next) => ⟨'?', none, none, ⟨next, none⟩, true⟩
  | (some [], next) => ⟨'?', none, none, ⟨next, none⟩, true⟩
  | (some (c :: rest), position) =>
      let size := ((args[position - 1]?).getD "").length
      let behind : Cursor := ⟨position + 1, some (size - rest.length)⟩
      let shown := String.ofList [c]
      let wrong (letter : Char) (message : String) (cursor : Cursor) : Found :=
        if isSilent then ⟨letter, some shown, none, cursor, false⟩
        else ⟨'?', none, some message, cursor, false⟩
      match letterKind? c known, rest, args[position]? with
      | none, _, _ => wrong '?' s!"Illegal option -{shown}" behind
      | some false, _, _ => ⟨c, some "", none, behind, false⟩
      | some true, [], none => wrong ':' s!"No arg for -{shown} option" ⟨position + 1, none⟩
      | some true, [], some value => ⟨c, some value, none, ⟨position + 2, none⟩, false⟩
      | some true, rest, _ => ⟨c, some (String.ofList rest), none, ⟨position + 1, none⟩, false⟩

def getopts : Builtin := fun args => do
  match args with
  | letters :: name :: given => do
      let process ← getProcess
      let args := if given.isEmpty then process.args else given
      let found := nextOption letters.toList args process.cursor
      if let some message := found.complaint? then let _ ← writeText 2 (message ++ "\n")
      if !found.ended then modifyProcess (·.withVariable "OPTARG" found.value?)
      assign "OPTIND" (Text.decimal found.cursor.next)
      if !isName name.toList then failWith s!"{name}: bad variable name"
      assign name (String.ofList [found.letter])
      modifyProcess fun process => { process with cursor := found.cursor }
      setStatus (if found.ended then 1 else 0)
  | _ => failWith "Usage: getopts optstring var [arg...]"

end OptionSchema.Shell.Builtin
