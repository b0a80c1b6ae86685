import OptionSchema.Shell.Command
import OptionSchema.Text.Digit
import OptionSchema.Text.Piece

/-!
# Tokens of scripts

A script is a sequence of words, operators, redirections and line ends, with blanks and comments
between them. It is read from the front; the lines of a document that a redirection announces are
taken from the text when the redirection is read.
-/

namespace OptionSchema.Shell

inductive Arrow where
  | file (direction : Direction)
  | document (dropsTabs : Bool)
  deriving DecidableEq

inductive Token where
  | endOfText
  | lineEnd
  | semicolon
  | background
  | and
  | or
  | pipe
  | opening
  | closing
  | endOfArm
  | redirection (descriptor? : Option Nat) (arrow : Arrow)
  | word (word : Word)
  | keyword (name : String)

def Token.name : Token → String
  | .endOfText => "end of file"
  | .lineEnd => "newline"
  | .semicolon => "\";\""
  | .background => "\"&\""
  | .and => "\"&&\""
  | .or => "\"||\""
  | .pipe => "\"|\""
  | .opening => "\"(\""
  | .closing => "\")\""
  | .endOfArm => "\";;\""
  | .redirection _ _ => "redirection"
  | .word _ => "word"
  | .keyword name => s!"\"{name}\""

def keywords : List String :=
  ["!", "case", "do", "done", "elif", "else", "esac", "fi", "for", "if", "in", "then", "until",
    "while", "\x7b", "\x7d"]

/-- The keyword that a word is, or else the word. -/
def Token.asKeyword (token : Token) : Token :=
  match token with
  | .word parts =>
      match plainText? parts with
      | some text => if keywords.contains text then .keyword text else token
      | none => token
  | token => token

def Token.endsBody : Token → Bool
  | .endOfText => true
  | .closing => true
  | .endOfArm => true
  | .keyword name => ["do", "done", "elif", "else", "esac", "fi", "then", "\x7d"].contains name
  | _ => false

def Token.isKeyword (token : Token) (expected : String) : Bool :=
  match token with
  | .keyword name => name == expected
  | _ => false

def Token.word? : Token → Option Word
  | .word parts => some parts
  | .keyword name => some (name.toList.map (.char false))
  | _ => none

inductive Fault where
  | unterminatedQuote
  | missingBrace
  | missingParentheses
  | unexpected (found : String) (expected? : Option String)
  | badLoopVariable
  | badFunctionName
  deriving DecidableEq

def Fault.message : Fault → String
  | .unterminatedQuote => "Unterminated quoted string"
  | .missingBrace => "Missing '\x7d'"
  | .missingParentheses => "Missing '))'"
  | .unexpected found none => s!"{found} unexpected"
  | .unexpected found (some expected) => s!"{found} unexpected (expecting {expected})"
  | .badLoopVariable => "Bad for loop variable"
  | .badFunctionName => "Bad function name"

structure ScriptError where
  line : Nat
  fault : Fault
  deriving DecidableEq

/-- What is left of a script: its text, the line on which that starts, how many lines of documents
have been taken from behind that line, and a token that has been read too early. -/
structure Source where
  text : List Char
  line : Nat
  taken : Nat
  pending? : Option Token

def Source.ofText (text : List Char) : Source :=
  ⟨text, 1, 0, none⟩

abbrev Read :=
  StateT Source (Except ScriptError)

namespace Read

def fail {α : Type} (fault : Fault) : Read α := do
  let source ← get
  throw ⟨source.line, fault⟩

def putBack (token : Token) : Read Unit :=
  modify fun source => { source with pending? := some token }

def failAt {α : Type} (found : Token) (expected? : Option Token) : Read α :=
  fail (.unexpected found.name (expected?.map Token.name))

def pass (count : Nat) : Read Unit :=
  modify fun source =>
    let ends := (source.text.take count).count '\n'
    let rest := source.text.drop count
    if ends == 0 then { source with text := rest }
    else { source with text := rest, line := source.line + ends + source.taken, taken := 0 }

end Read

/-- A text without the blanks, comments and continued lines that it starts with. -/
def withoutBlanks : Nat → List Char → List Char
  | 0, text => text
  | fuel + 1, text =>
      match text with
      | ' ' :: rest => withoutBlanks fuel rest
      | '\t' :: rest => withoutBlanks fuel rest
      | '\\' :: '\n' :: rest => withoutBlanks fuel rest
      | '#' :: rest => withoutBlanks fuel (rest.dropWhile (· != '\n'))
      | text => text

/-- The operator that a text starts with, and the number of its characters. -/
def operator? : List Char → Option (Token × Nat)
  | [] => some (.endOfText, 0)
  | '\n' :: _ => some (.lineEnd, 1)
  | ';' :: ';' :: _ => some (.endOfArm, 2)
  | ';' :: _ => some (.semicolon, 1)
  | '&' :: '&' :: _ => some (.and, 2)
  | '&' :: _ => some (.background, 1)
  | '|' :: '|' :: _ => some (.or, 2)
  | '|' :: _ => some (.pipe, 1)
  | '(' :: _ => some (.opening, 1)
  | ')' :: _ => some (.closing, 1)
  | _ => none

def arrow? : List Char → Option (Arrow × Nat)
  | '>' :: '&' :: _ => some (.file (.duplicate true), 2)
  | '>' :: '>' :: _ => some (.file .append, 2)
  | '>' :: '|' :: _ => some (.file .overwrite, 2)
  | '>' :: _ => some (.file .write, 1)
  | '<' :: '<' :: '-' :: _ => some (.document true, 3)
  | '<' :: '<' :: _ => some (.document false, 2)
  | '<' :: '&' :: _ => some (.file (.duplicate false), 2)
  | '<' :: _ => some (.file .read, 1)
  | _ => none

/-- The redirection that a text starts with, and the number of its characters. A single digit in
front of the arrow is the descriptor that is redirected. -/
def redirection? (text : List Char) : Option (Token × Nat) :=
  match arrow? text, text with
  | some (arrow, count), _ => some (.redirection none arrow, count)
  | none, c :: rest =>
      if c.isDigit then
        (arrow? rest).map fun (arrow, count) =>
          (.redirection (some (Text.digitValue c)) arrow, count + 1)
      else none
  | none, [] => none

def Direction.standard : Direction → Nat
  | .read => 0
  | .duplicate writes => if writes then 1 else 0
  | _ => 1

def endsWord (c : Char) : Bool :=
  " \t\n;&|<>()".toList.contains c

def linesUntil (mark : List Char) (dropsTabs : Bool) :
    List (List Char) → List (List Char) × List (List Char)
  | [] => ([], [])
  | line :: rest =>
      let line := if dropsTabs then line.dropWhile (· == '\t') else line
      if line == mark then ([], rest)
      else
        let (document, behind) := linesUntil mark dropsTabs rest
        (line :: document, behind)

def takeDocument (mark : List Char) (dropsTabs : Bool) : Read (List Char) := do
  let source ← get
  let (line, below) := source.text.span (· != '\n')
  let lines := if below.isEmpty then [] else Text.cut (· == '\n') (below.drop 1)
  let (document, behind) := linesUntil mark dropsTabs lines
  let rest := if behind.isEmpty then [] else '\n' :: List.intercalate ['\n'] behind
  let taken := source.taken + lines.length - behind.length
  set { source with text := line ++ rest, taken }
  return document.flatMap (· ++ ['\n'])

end OptionSchema.Shell
