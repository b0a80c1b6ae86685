/-!
# Options

Options are letters that stand in front of the arguments of a command, several of them maybe in one
argument. Those of a shell are set and cleared, when it starts or later; those of other commands can
have values.
-/

namespace OptionSchema.Shell

/-! ## Options of commands -/

/-- What the options of a command are: their letters with whether they have a value, and what is said
of a letter that is none and of one without its value. -/
structure Letters where
  allowed : List (Char × Bool)
  illegal : Char → String
  bare : Char → String

def lettersIn (letters : Letters) (rest : List String) :
    List Char → Except String (List (Char × String) × List String)
  | [] => .ok ([], rest)
  | c :: text =>
      match letters.allowed.lookup c, text, rest with
      | none, _, _ => .error (letters.illegal c)
      | some false, text, rest => do
          let (more, rest) ← lettersIn letters rest text
          return ((c, "") :: more, rest)
      | some true, [], [] => .error (letters.bare c)
      | some true, [], value :: rest => .ok ([(c, value)], rest)
      | some true, text, rest => .ok ([(c, String.ofList text)], rest)

/-- The options in front of arguments, at most a number of arguments with options, and what is
behind them. -/
def lettersFrom (letters : Letters) :
    Nat → List String → Except String (List (Char × String) × List String)
  | 0, args => .ok ([], args)
  | _, [] => .ok ([], [])
  | count + 1, arg :: rest =>
      match arg.toList with
      | ['-', '-'] => .ok ([], rest)
      | '-' :: c :: text => do
          let (options, rest) ← lettersIn letters rest (c :: text)
          let (more, rest) ← lettersFrom letters count rest
          return (options ++ more, rest)
      | _ => .ok ([], arg :: rest)

/-! ## Options of a shell -/

def optionLetters : List Char :=
  "efImnsxvVEiCabup".toList

/-- The options of a shell, whether its script is an argument, and the arguments behind the options
if there are some. -/
structure Options where
  letters : List Char
  inline : Bool
  rest? : Option (List String)

def Options.change (options : Options) (isSet : Bool) (letter : Char) : Options :=
  let others := options.letters.filter (· != letter)
  { options with letters := if isSet then others ++ [letter] else others }

def readLetters (starting isSet : Bool) (options : Options) : List Char → Except String Options
  | [] => .ok options
  | letter :: letters =>
      if letter == 'c' && starting then
        readLetters starting isSet { options with inline := true } letters
      else if optionLetters.contains letter then
        readLetters starting isSet (options.change isSet letter) letters
      else .error s!"-{String.ofList [letter]}"

def readOptions (starting : Bool) (options : Options) : List String → Except String Options
  | [] => .ok options
  | arg :: rest =>
      match arg.toList with
      | ['-', '-'] =>
          .ok { options with rest? := if rest.isEmpty && starting then none else some rest }
      | '-' :: letters => do
          readOptions starting (← readLetters starting true options letters) rest
      | '+' :: letters => do
          readOptions starting (← readLetters starting false options letters) rest
      | _ => .ok { options with rest? := some (arg :: rest) }

end OptionSchema.Shell
