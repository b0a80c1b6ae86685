import OptionSchema.Shell.Token

/-!
# Reading scripts

The commands of a script are read line by line, so that a line can run before a fault in a later one
is found. What ends a word depends on where it stands: between quotes, inside braces, in a document
or in an arithmetic expression.
-/

namespace OptionSchema.Shell

/-- Where a word stands. Braces can themselves stand between quotes. -/
inductive Context where
  | bare
  | quoted
  | braced (quoted : Bool)
  | document
  | arithmetic (depth : Nat)
  deriving DecidableEq

namespace Context

def isQuoted : Context → Bool
  | .bare => false
  | .braced inner => inner
  | _ => true

def knowsQuotes : Context → Bool
  | .bare => true
  | .braced _ => true
  | _ => false

def closesWith (context : Context) (c : Char) : Bool :=
  match context with
  | .quoted => c == '"'
  | .braced _ => c == '}'
  | _ => false

def protects (context : Context) (c : Char) : Bool :=
  let common := c == '$' || c == '\\'
  match context with
  | .bare => true
  | .braced false => true
  | .quoted => common || c == '"'
  | .braced true => common || c == '"' || c == '}'
  | .document => common
  | .arithmetic _ => common || c == '"'

def faultAtEnd? : Context → Option Fault
  | .bare => none
  | .document => none
  | .quoted => some .unterminatedQuote
  | .braced true => some .unterminatedQuote
  | .braced false => some .missingBrace
  | .arithmetic _ => some .missingParentheses

end Context

/-! ## Parameters -/

def specialParameter? (c : Char) : Option Parameter :=
  match c with
  | '@' => some .each
  | '*' => some .joined
  | '#' => some .count
  | '?' => some .status
  | '$' => some .process
  | '!' => some .job
  | c => if c.isDigit then some (.argument (Text.digitValue c)) else none

def plainParameter? (text : List Char) : Option (Parameter × Nat) :=
  match text with
  | [] => none
  | c :: _ =>
      if startsName c then
        let name := text.takeWhile isNameChar
        some (.named (String.ofList name), name.length)
      else (specialParameter? c).map (·, 1)

def innerParameter? (text : List Char) : Option (Parameter × Nat) :=
  let digits := text.takeWhile Char.isDigit
  if digits.isEmpty then plainParameter? text
  else some (.argument (Text.digitsValue 10 digits), digits.length)

def measuredParameter? (text : List Char) : Option (Parameter × Nat) :=
  match text with
  | '#' :: rest =>
      (innerParameter? rest).filter fun (_, count) => (rest.drop count).head? == some '}'
  | _ => none

def fallback? (c : Char) : Option Fallback :=
  match c with
  | '-' => some .use
  | '=' => some .assign
  | '?' => some .complain
  | '+' => some .replace
  | _ => none

/-- What follows a parameter inside braces, with the number of its characters and the context of the
word behind them. -/
def formAt? (quoted : Bool) (text : List Char) : Option ((Word → Form) × Nat × Context) :=
  match text with
  | '}' :: _ => some (fun _ => .value, 0, .braced quoted)
  | '%' :: '%' :: _ => some (.trimmed false true, 2, .braced false)
  | '%' :: _ => some (.trimmed false false, 1, .braced false)
  | '#' :: '#' :: _ => some (.trimmed true true, 2, .braced false)
  | '#' :: _ => some (.trimmed true false, 1, .braced false)
  | ':' :: c :: _ => (fallback? c).map fun kind => (.fallback kind true, 2, .braced quoted)
  | c :: _ => (fallback? c).map fun kind => (.fallback kind false, 1, .braced quoted)
  | [] => none

/-! ## Words -/

/-- The parts between quotes, which are a field even if there are none. -/
def orNothing (parts : Word) : Word :=
  if parts.isEmpty then [.nothing] else parts

def assignment? (word : Word) : Option Assignment :=
  let char? : Part → Option Char := fun
    | .char false c => some c
    | _ => none
  let name := (word.map char?).takeWhile fun c? => c?.any isNameChar
  let text := name.filterMap id
  match word.drop name.length with
  | .char false '=' :: value => if isName text then some (.mk (String.ofList text) value) else none
  | _ => none

def documentMark (word : Word) : List Char × Bool :=
  let char? : Part → Option Char := fun
    | .char _ c => some c
    | _ => none
  let isQuoted : Part → Bool := fun
    | .char quoted _ => quoted
    | .nothing => true
    | _ => false
  (word.filterMap char?, word.any isQuoted)

/-- The builtins that functions cannot replace. -/
def specialBuiltins : List String :=
  [":", "break", "continue", "eval", "exec", "exit", "export", "return", "set", "shift", "unset"]

/-- What a list of commands is: a line of the script, the body of a command, or that of an arm,
which can be empty. -/
inductive ListKind where
  | line
  | body
  | arm
  deriving DecidableEq

structure SimpleParts where
  assignments : List Assignment
  words : List Word
  redirections : List Redirection

open Read

mutual

def readParts : Nat → Context → Read Word
  | 0, _ => return []
  | fuel + 1, context => do
      let quoted := context.isQuoted
      let andMore (parts : Word) : Read Word := return parts ++ (← readParts fuel context)
      match (← get).text with
      | [] =>
          match context.faultAtEnd? with
          | some fault => fail fault
          | none => return []
      | c :: rest =>
          if context == .bare && endsWord c then return []
          else if context.closesWith c then
            pass 1
            return []
          else
            match c, rest, context with
            | '\\', '\n' :: _, _ =>
                pass 2
                andMore []
            | '\\', d :: _, context =>
                pass (if context.protects d then 2 else 1)
                andMore [if context.protects d then .char true d else .char quoted '\\']
            | '$', _, _ => andMore (← readDollar fuel quoted)
            | '(', _, .arithmetic depth =>
                pass 1
                return .char true '(' :: (← readParts fuel (.arithmetic (depth + 1)))
            | ')', _, .arithmetic (depth + 1) =>
                pass 1
                return .char true ')' :: (← readParts fuel (.arithmetic depth))
            | ')', ')' :: _, .arithmetic 0 =>
                pass 2
                return []
            | '"', _, context =>
                pass 1
                if context.knowsQuotes then andMore (orNothing (← readParts fuel .quoted))
                else andMore [.char quoted '"']
            | '\'', rest, _ =>
                if quoted then
                  pass 1
                  andMore [.char quoted '\'']
                else
                  let inner := rest.takeWhile (· != '\'')
                  pass (inner.length + 2)
                  if inner.length == rest.length then fail .unterminatedQuote
                  andMore (orNothing (inner.map (.char true)))
            | c, _, _ =>
                pass 1
                andMore [.char quoted c]

def readDollar : Nat → Bool → Read Word
  | 0, _ => return []
  | fuel + 1, quoted => do
      pass 1
      match (← get).text with
      | '(' :: '(' :: _ =>
          pass 2
          return [.arithmetic quoted (← readParts fuel (.arithmetic 0))]
      | '(' :: _ =>
          pass 1
          let body ← readList fuel .arm none
          match ← readToken fuel with
          | .closing => return [.substitution quoted body]
          | token => failAt token (some .closing)
      | '{' :: _ =>
          pass 1
          readBraced fuel quoted
      | text =>
          match plainParameter? text with
          | some (parameter, count) =>
              pass count
              return [.parameter quoted parameter .value]
          | none => return [.char quoted '$']

def readBraced : Nat → Bool → Read Word
  | 0, _ => return []
  | fuel + 1, quoted => do
      let malformed : Read Word := do
        let _ ← readParts fuel (.braced quoted)
        return [.malformed]
      let text := (← get).text
      match measuredParameter? text, innerParameter? text with
      | some (parameter, count), _ =>
          pass (count + 2)
          return [.parameter quoted parameter .length]
      | none, some (parameter, count) =>
          pass count
          match formAt? quoted (text.drop count) with
          | some (form, count, context) =>
              pass count
              return [.parameter quoted parameter (form (← readParts fuel context))]
          | none => malformed
      | none, none => malformed

def readToken : Nat → Read Token
  | 0 => return .endOfText
  | fuel + 1 => do
      let source ← get
      match source.pending? with
      | some token =>
          set { source with pending? := none }
          return token
      | none =>
          let text := withoutBlanks source.text.length source.text
          pass (source.text.length - text.length)
          match operator? text, redirection? text with
          | some (token, count), _ =>
              pass count
              return token
          | none, some (token, count) =>
              pass count
              return token
          | none, none => return .word (← readParts fuel .bare)

def readKeyword : Nat → Bool → Read Token
  | 0, _ => return .endOfText
  | fuel + 1, skipsLines => do
      match (← readToken fuel).asKeyword, skipsLines with
      | .lineEnd, true => readKeyword fuel true
      | token, _ => return token

def expect : Nat → Bool → String → Read Unit
  | 0, _, _ => return ()
  | fuel + 1, skipsLines, name => do
      let token ← readKeyword fuel skipsLines
      if token.isKeyword name then return () else failAt token (some (.keyword name))

def skipLines : Nat → Read Unit
  | 0 => return ()
  | fuel + 1 => do putBack (← readKeyword fuel true)

/-- Reads commands with separators between them, after those that have been read already. -/
def readList : Nat → ListKind → Option Command → Read Command
  | 0, _, _ => return .nothing
  | fuel + 1, kind, before? => do
      let token ← readKeyword fuel (kind != .line)
      let mayEnd := kind == .arm || (kind == .body && before?.isSome)
      match token with
      | .lineEnd => return before?.getD .nothing
      | .endOfText =>
          putBack token
          return before?.getD .nothing
      | token =>
          putBack token
          if token.endsBody && mayEnd then return before?.getD .nothing
          let next ← readConjunction fuel
          let after ← readToken fuel
          let next :=
            match after with
            | .background => .background next
            | _ => next
          let all :=
            match before? with
            | some before => .sequence before next
            | none => next
          match after with
          | .background => readList fuel kind (some all)
          | .semicolon => readList fuel kind (some all)
          | .lineEnd =>
              putBack after
              readList fuel kind (some all)
          | .endOfText =>
              putBack after
              return all
          | after =>
              if kind == .line then failAt after none
              putBack after
              return all

def readConjunction : Nat → Read Command
  | 0 => return .nothing
  | fuel + 1 => do readConjunctionFrom fuel (← readPipeline fuel)

def readConjunctionFrom : Nat → Command → Read Command
  | 0, first => return first
  | fuel + 1, first => do
      match ← readToken fuel with
      | .and =>
          skipLines fuel
          readConjunctionFrom fuel (.both first (← readPipeline fuel))
      | .or =>
          skipLines fuel
          readConjunctionFrom fuel (.either first (← readPipeline fuel))
      | token =>
          putBack token
          return first

def readPipeline : Nat → Read Command
  | 0 => return .nothing
  | fuel + 1 => do
      let token ← readKeyword fuel false
      if token.isKeyword "!" then return .negated (← readStages fuel)
      putBack token
      readStages fuel

def readStages : Nat → Read Command
  | 0 => return .nothing
  | fuel + 1 => do
      let source ← readCommand fuel
      match ← readToken fuel with
      | .pipe =>
          skipLines fuel
          return .pipe source (← readStages fuel)
      | token =>
          putBack token
          return source

def readCommand : Nat → Read Command
  | 0 => return .nothing
  | fuel + 1 => do
      let token ← readKeyword fuel false
      let line := (← get).line
      match token with
      | .opening =>
          let body ← readList fuel .body none
          match ← readToken fuel with
          | .closing => readRedirected fuel line (.isolated body)
          | token => failAt token (some .closing)
      | .keyword "\x7b" =>
          let body ← readList fuel .body none
          expect fuel false "\x7d"
          readRedirected fuel line body
      | .keyword "if" => readRedirected fuel line (← readBranch fuel)
      | .keyword "while" => readRedirected fuel line (← readLoop fuel true)
      | .keyword "until" => readRedirected fuel line (← readLoop fuel false)
      | .keyword "for" => readRedirected fuel line (← readForEach fuel line)
      | .keyword "case" =>
          match ← readToken fuel with
          | .word subject =>
              expect fuel true "in"
              readRedirected fuel line (.choose line subject (← readArms fuel))
          | token => failAt token (some (.word []))
      | .word _ =>
          putBack token
          readSimple fuel line ⟨[], [], []⟩
      | .redirection _ _ =>
          putBack token
          readSimple fuel line ⟨[], [], []⟩
      | token => failAt token none

def readBranch : Nat → Read Command
  | 0 => return .nothing
  | fuel + 1 => do
      let condition ← readList fuel .body none
      expect fuel false "then"
      let success ← readList fuel .body none
      let token ← readKeyword fuel false
      if token.isKeyword "elif" then
        return .branch condition success (← readBranch fuel)
      else if token.isKeyword "else" then
        let failure ← readList fuel .body none
        expect fuel false "fi"
        return .branch condition success failure
      else
        putBack token
        expect fuel false "fi"
        return .branch condition success .nothing

def readLoop : Nat → Bool → Read Command
  | 0, _ => return .nothing
  | fuel + 1, runsWhile => do
      let condition ← readList fuel .body none
      expect fuel false "do"
      let body ← readList fuel .body none
      expect fuel false "done"
      return .loop runsWhile condition body

def readForEach : Nat → Nat → Read Command
  | 0, _ => return .nothing
  | fuel + 1, line => do
      match (← readToken fuel).word?.bind plainText? with
      | none => fail .badLoopVariable
      | some name =>
          if !isName name.toList then fail .badLoopVariable
          let words? ←
            match ← readKeyword fuel true with
            | .keyword "in" => some <$> readWords fuel
            | .semicolon => pure none
            | token =>
                putBack token
                pure none
          expect fuel true "do"
          let body ← readList fuel .body none
          expect fuel false "done"
          return .forEach line name words? body

def readWords : Nat → Read (List Word)
  | 0 => return []
  | fuel + 1 => do
      match ← readToken fuel with
      | .word parts => return parts :: (← readWords fuel)
      | .lineEnd => return []
      | .semicolon => return []
      | token => failAt token none

def readArms : Nat → Read (List Arm)
  | 0 => return []
  | fuel + 1 => do
      let token ← readKeyword fuel true
      if token.isKeyword "esac" then return []
      match token with
      | .opening => pure ()
      | token => putBack token
      let patterns ← readPatterns fuel
      let body ← readList fuel .arm none
      match ← readKeyword fuel true with
      | .endOfArm => return .mk patterns body :: (← readArms fuel)
      | token =>
          if token.isKeyword "esac" then return [.mk patterns body]
          failAt token (some .endOfArm)

/-- Reads the patterns of an arm up to the closing parenthesis. What is no word counts as an empty
pattern. -/
def readPatterns : Nat → Read (List Word)
  | 0 => return []
  | fuel + 1 => do
      let pattern := (← readToken fuel).word?.getD []
      match ← readToken fuel with
      | .pipe => return pattern :: (← readPatterns fuel)
      | .closing => return [pattern]
      | token => failAt token (some .closing)

def readSimple : Nat → Nat → SimpleParts → Read Command
  | 0, _, _ => return .nothing
  | fuel + 1, line, parts => do
      let token ← readToken fuel
      let finished : Read Command := do
        putBack token
        return .simple line parts.assignments parts.words parts.redirections
      match token with
      | .word word =>
          match if parts.words.isEmpty then assignment? word else none with
          | some assignment =>
              let assignments := parts.assignments ++ [assignment]
              readSimple fuel line { parts with assignments }
          | none => readSimple fuel line { parts with words := parts.words ++ [word] }
      | .redirection descriptor? arrow =>
          let redirection ← readRedirection fuel descriptor? arrow
          readSimple fuel line { parts with redirections := parts.redirections ++ [redirection] }
      | .opening =>
          match parts with
          | ⟨[], [word], []⟩ =>
              match ← readToken fuel with
              | .closing =>
                  let name := (plainText? word).getD ""
                  if !isName name.toList || specialBuiltins.contains name then fail .badFunctionName
                  skipLines fuel
                  return .define name (← readCommand fuel)
              | token => failAt token (some .closing)
          | _ => finished
      | _ => finished

def readRedirection : Nat → Option Nat → Arrow → Read Redirection
  | 0, _, _ => return .document 0 []
  | fuel + 1, descriptor?, arrow => do
      match ← readToken fuel, arrow with
      | .word target, .file direction =>
          return .file (descriptor?.getD direction.standard) direction target
      | .word mark, .document dropsTabs =>
          let (text, quoted) := documentMark mark
          let document ← takeDocument text dropsTabs
          if quoted then return .document (descriptor?.getD 0) (document.map (.char true))
          let source ← get
          set { source with text := document }
          let body ← readParts fuel .document
          set source
          return .document (descriptor?.getD 0) body
      | token, _ => failAt token none

def readRedirected : Nat → Nat → Command → Read Command
  | 0, _, command => return command
  | fuel + 1, line, command => do
      let redirections ← readRedirections fuel
      return if redirections.isEmpty then command else .redirected line command redirections

def readRedirections : Nat → Read (List Redirection)
  | 0 => return []
  | fuel + 1 => do
      match ← readKeyword fuel false with
      | .redirection descriptor? arrow =>
          let redirection ← readRedirection fuel descriptor? arrow
          return redirection :: (← readRedirections fuel)
      | token =>
          putBack token
          return []

end

/-- Reads a line of a script, which can go on over several lines of its text; there is none at the
end of the script. -/
def readLine (source : Source) : Except ScriptError (Option (Command × Source)) :=
  if (withoutBlanks source.text.length source.text).isEmpty then .ok none
  else some <$> (readList (8 * source.text.length + 64) .line none).run source

end OptionSchema.Shell
