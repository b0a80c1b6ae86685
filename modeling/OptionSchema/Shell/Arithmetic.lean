import OptionSchema.Shell.Command
import OptionSchema.Shell.Numeric

/-!
# Arithmetic expressions

Expressions over whole numbers of 64 bits and variables: signs, the four operations, remainders,
shifts, comparisons, bits, conjunction and disjunction.
-/

namespace OptionSchema.Shell.Arithmetic

inductive Token where
  | number (value : Int)
  | name (name : String)
  | symbol (text : String)
  deriving DecidableEq

inductive Operation where
  | bitOr | bitXor | bitAnd
  | equal | unequal
  | less | greater | atMost | atLeast
  | shiftLeft | shiftRight
  | add | subtract
  | multiply | divide | remainder
  deriving DecidableEq

inductive Sign where
  | negative
  | complement
  | negation
  deriving DecidableEq

inductive Fault where
  | expected (what : String)
  | divisionByZero
  | notANumber (text : String)
  deriving DecidableEq

inductive Expression where
  | number (value : Int)
  | name (name : String)
  | signed (sign : Sign) (operand : Expression)
  | binary (operation : Operation) (first second : Expression)
  | both (first second : Expression)
  | either (first second : Expression)

def Fault.message (expression : String) : Fault → String
  | .expected what => s!"arithmetic expression: expecting {what}: \"{expression}\""
  | .divisionByZero => s!"arithmetic expression: division by zero: \"{expression}\""
  | .notANumber text => s!"Illegal number: {text}"

/-! ## Reading -/

def symbols : List String :=
  ["<<", ">>", "<=", ">=", "==", "!=", "&&", "||", "<", ">", "+", "-", "*", "/", "%", "&", "|", "^",
    "!", "~", "(", ")"]

def tokenAt (text : List Char) : Token × Nat :=
  match text with
  | [] => (.symbol "", 0)
  | c :: _ =>
      if c.isDigit then
        let reading := readInteger text
        (.number reading.value, text.length - reading.rest.length)
      else if startsName c then
        let name := text.takeWhile isNameChar
        (.name (String.ofList name), name.length)
      else
        match symbols.find? fun symbol => symbol.toList.isPrefixOf text with
        | some symbol => (.symbol symbol, symbol.length)
        | none => (.symbol (String.ofList [c]), 1)

def tokensFrom : Nat → List Char → List Token
  | _, [] => []
  | skip + 1, _ :: rest => tokensFrom skip rest
  | 0, c :: rest =>
      if isSpace c then tokensFrom 0 rest
      else
        let (token, count) := tokenAt (c :: rest)
        token :: tokensFrom (count - 1) rest

def joint? (symbol : String) : Option ((Expression → Expression → Expression) × Nat) :=
  match symbol with
  | "||" => some (.either, 1)
  | "&&" => some (.both, 2)
  | "|" => some (.binary .bitOr, 3)
  | "^" => some (.binary .bitXor, 4)
  | "&" => some (.binary .bitAnd, 5)
  | "==" => some (.binary .equal, 6)
  | "!=" => some (.binary .unequal, 6)
  | "<" => some (.binary .less, 7)
  | ">" => some (.binary .greater, 7)
  | "<=" => some (.binary .atMost, 7)
  | ">=" => some (.binary .atLeast, 7)
  | "<<" => some (.binary .shiftLeft, 8)
  | ">>" => some (.binary .shiftRight, 8)
  | "+" => some (.binary .add, 9)
  | "-" => some (.binary .subtract, 9)
  | "*" => some (.binary .multiply, 10)
  | "/" => some (.binary .divide, 10)
  | "%" => some (.binary .remainder, 10)
  | _ => none

abbrev Read :=
  List Token → Except Fault (Expression × List Token)

mutual

/-- Reads expressions that are joined at least as tightly as a level says. -/
def readJoined : Nat → Nat → Read
  | 0, _, _ => .error (.expected "primary")
  | fuel + 1, level, tokens => do
      let (first, rest) ← readOperand fuel tokens
      readJoinedFrom fuel level first rest

def readJoinedFrom : Nat → Nat → Expression → Read
  | 0, _, _, _ => .error (.expected "primary")
  | fuel + 1, level, first, tokens =>
      match tokens with
      | .symbol symbol :: rest =>
          match joint? symbol with
          | some (join, tightness) =>
              if tightness < level then .ok (first, tokens)
              else do
                let (second, rest) ← readJoined fuel (tightness + 1) rest
                readJoinedFrom fuel level (join first second) rest
          | none => .ok (first, tokens)
      | tokens => .ok (first, tokens)

def readOperand : Nat → Read
  | 0, _ => .error (.expected "primary")
  | fuel + 1, tokens =>
      let signed (sign : Sign) (rest : List Token) : Except Fault (Expression × List Token) := do
        let (operand, rest) ← readOperand fuel rest
        return (.signed sign operand, rest)
      match tokens with
      | .number value :: rest => .ok (.number value, rest)
      | .name name :: rest => .ok (.name name, rest)
      | .symbol "+" :: rest => readOperand fuel rest
      | .symbol "-" :: rest => signed .negative rest
      | .symbol "~" :: rest => signed .complement rest
      | .symbol "!" :: rest => signed .negation rest
      | .symbol "(" :: rest => do
          match ← readJoined fuel 0 rest with
          | (inner, .symbol ")" :: rest) => return (inner, rest)
          | _ => throw (.expected "')'")
      | _ => .error (.expected "primary")

end

def Expression.ofText (text : List Char) : Except Fault Expression := do
  let tokens := tokensFrom 0 text
  let (expression, rest) ← readJoined (16 * tokens.length + 16) 0 tokens
  if rest.isEmpty then return expression else throw (.expected "EOF")

/-! ## Values -/

def word (value : Int) : Int :=
  value.bmod 0x1_0000_0000_0000_0000

def truth (condition : Bool) : Int :=
  if condition then 1 else 0

def onBits (f : Nat → Nat → Nat) (first second : Int) : Int :=
  word (f (first % 0x1_0000_0000_0000_0000).toNat (second % 0x1_0000_0000_0000_0000).toNat)

def Operation.apply (operation : Operation) (first second : Int) : Except Fault Int :=
  let places := (second % 64).toNat
  match operation with
  | .bitOr => .ok (onBits Nat.lor first second)
  | .bitXor => .ok (onBits Nat.xor first second)
  | .bitAnd => .ok (onBits Nat.land first second)
  | .equal => .ok (truth (first == second))
  | .unequal => .ok (truth (first != second))
  | .less => .ok (truth (first < second))
  | .greater => .ok (truth (second < first))
  | .atMost => .ok (truth (first ≤ second))
  | .atLeast => .ok (truth (second ≤ first))
  | .shiftLeft => .ok (word (first * Int.pow 2 places))
  | .shiftRight => .ok (first.fdiv (Int.pow 2 places))
  | .add => .ok (word (first + second))
  | .subtract => .ok (word (first - second))
  | .multiply => .ok (word (first * second))
  | .divide => if second == 0 then .error .divisionByZero else .ok (word (first.tdiv second))
  | .remainder => if second == 0 then .error .divisionByZero else .ok (word (first.tmod second))

def Sign.apply (sign : Sign) (operand : Int) : Int :=
  match sign with
  | .negative => word (-operand)
  | .complement => word (-operand - 1)
  | .negation => truth (operand == 0)

/-- The number that the text of a variable denotes. A blank text denotes zero. -/
def valueOf (text : String) : Except Fault Int :=
  let reading := readInteger text.toList
  if reading.rest.all isSpace then .ok reading.value else .error (.notANumber text)

def Expression.value (textOf : String → String) : Expression → Except Fault Int
  | .number value => return min value 0x7fff_ffff_ffff_ffff
  | .name target => valueOf (textOf target)
  | .signed sign operand => return sign.apply (← operand.value textOf)
  | .binary operation first second => do
      operation.apply (← first.value textOf) (← second.value textOf)
  | .both first second => do
      if (← first.value textOf) == 0 then return 0
      return truth ((← second.value textOf) != 0)
  | .either first second => do
      if (← first.value textOf) != 0 then return 1
      return truth ((← second.value textOf) != 0)

def evaluate (textOf : String → String) (text : List Char) : Except Fault Int := do
  (← Expression.ofText text).value textOf

end OptionSchema.Shell.Arithmetic
