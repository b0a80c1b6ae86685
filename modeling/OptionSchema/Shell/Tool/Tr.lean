import OptionSchema.Shell.Tool.Basic
import OptionSchema.Text.Digit

/-!
# The tool `tr`

It replaces the bytes of one set by those of another one, or deletes the bytes of a set. A set is
written as a text with escapes, ranges and classes. It is a list: the position of a byte decides what
it is translated to.
-/

namespace OptionSchema.Shell.Tool.Tr

/-! ## Sets -/

/-- A character of the text of a set, and whether a backslash stood in front of it. -/
abbrev SetChar :=
  Char × Bool

def readEscape (text : List Char) : SetChar × Nat :=
  let digits := (text.take 3).takeWhile Text.isOctalDigit
  match text with
  | [] => (('\\', false), 0)
  | c :: _ =>
      if !digits.isEmpty then ((Char.ofNat (Text.digitsValue 8 digits), true), digits.length)
      else
        let meant :=
          match c with
          | 'a' => '\x07'
          | 'b' => '\x08'
          | 'f' => '\x0c'
          | 'n' => '\n'
          | 'r' => '\r'
          | 't' => '\t'
          | 'v' => '\x0b'
          | c => c
        ((meant, true), 1)

def setChars : Nat → List Char → List SetChar
  | _, [] => []
  | skip + 1, _ :: rest => setChars skip rest
  | 0, c :: rest =>
      if c == '\\' then
        let (meant, count) := readEscape rest
        meant :: setChars count rest
      else (c, false) :: setChars 0 rest

def characterClass? (name : String) : Option (Char → Bool) :=
  match name with
  | "alnum" => some Char.isAlphanum
  | "alpha" => some Char.isAlpha
  | "digit" => some Char.isDigit
  | "lower" => some Char.isLower
  | "space" => some fun c => c == ' ' || ('\t' ≤ c && c ≤ '\r')
  | "upper" => some Char.isUpper
  | _ => none

def allCharacters : List Char :=
  (List.range 256).map Char.ofNat

def members : Nat → List SetChar → Except String (List Char)
  | _, [] => .ok []
  | skip + 1, _ :: rest => members skip rest
  | 0, first :: rest =>
      match first, rest with
      | ('[', false), (':', false) :: more => do
          let name := (more.map Prod.fst).takeWhile Char.isAlpha
          match characterClass? (String.ofList name) with
          | some isMember =>
              return allCharacters.filter isMember ++ (← members (name.length + 3) rest)
          | none => throw s!"invalid character class '{String.ofList name}'"
      | (c, _), ('-', false) :: (last, _) :: _ =>
          if last < c then
            let range := String.ofList [c, '-', last]
            .error s!"range-endpoints of '{range}' are in reverse collating sequence order"
          else do
            let range := (List.range (last.toNat + 1 - c.toNat)).map fun i => c.toNat + i
            return range.map Char.ofNat ++ (← members 2 rest)
      | (c, _), _ => return c :: (← members 0 rest)

def setOf (text : String) : Except String (List Char) :=
  members 0 (setChars 0 text.toList)

/-! ## Changes -/

/-- The character to which a character is translated. Of two positions the later one counts. -/
def translated (source target : List Char) (c : Char) : Char :=
  ((source.zip target).reverse.lookup c).getD c

/-- How texts are changed, or what is wrong with the sets. Unless the source is cut down, the last
character of the target stands for what is missing. -/
def change (truncates : Bool) (source : List Char) (target? : Option (List Char)) :
    Except String (List Char → List Char) :=
  match target? with
  | none => .ok fun text => text.filter (!source.contains ·)
  | some target =>
      match truncates, target.getLast? with
      | true, _ => .ok fun text => text.map (translated source target)
      | false, some last =>
          let missing := List.replicate (source.length - target.length) last
          .ok fun text => text.map (translated source (target ++ missing))
      | false, none => .error "when not truncating set1, string2 must be non-empty"

def run (call : Call) (options : List (Char × String)) (operands : List String) :
    Except String Reply := do
  let has (letter : Char) : Bool := options.any (·.1 == letter)
  let given ← setOf (operands.headD "")
  let source := if has 'c' then allCharacters.filter (!given.contains ·) else given
  let target? ← if has 'd' then pure none else some <$> setOf (operands.tail.headD "")
  let change ← change (has 't') source target?
  let bytewise (bytes : ByteArray) : ByteArray :=
    ByteText.toBytes (String.ofList (change (ByteText.ofBytes bytes).toList))
  match call.input with
  | .ok flow => return ⟨[.write (flow.map bytewise)], 0, some (.empty call.time)⟩
  | .error cause => throw s!"read error: {cause.description}"

def tool : Tool := fun call =>
  call.withOptions [('c', false), ('d', false), ('t', false)] call.args fun options operands =>
    let expected := if options.any (·.1 == 'd') then 1 else 2
    match operands.getLast?, operands[expected]? with
    | none, _ => call.misuse "missing operand"
    | some _, some extra => call.misuse s!"extra operand '{extra}'"
    | some last, none =>
        if operands.length < expected then
          let missing := Step.complain "Two strings must be given when translating.\n"
          let reply := call.misuse s!"missing operand after '{last}'"
          { reply with steps := reply.steps.take 1 ++ missing :: reply.steps.drop 1 }
        else
          match run call options operands with
          | .ok reply => reply
          | .error fault => call.fail fault

end OptionSchema.Shell.Tool.Tr
