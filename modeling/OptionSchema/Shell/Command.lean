/-!
# Commands

A script is made of commands, and a command of words. A word is written with quotes, parameters and
commands whose output becomes part of it. Commands are joined by sequence, conjunction, disjunction
and pipes, grouped, chosen and repeated; their files are redirected, and they can be given names.
-/

namespace OptionSchema.Shell

inductive Parameter where
  | named (name : String)
  | argument (position : Nat)
  | each
  | joined
  | count
  | status
  | process
  | job
  deriving DecidableEq

inductive Fallback where
  | use
  | assign
  | complain
  | replace
  deriving DecidableEq

/-- How a file is opened, or which descriptor takes the place of another one. A shell can be told to
write only to new files unless it is to overwrite them. -/
inductive Direction where
  | read
  | write
  | overwrite
  | append
  | duplicate (writes : Bool)
  deriving DecidableEq

mutual

/-- A part of a word. Quoted parts are not cut into fields and mean nothing in patterns. -/
inductive Part where
  | char (quoted : Bool) (c : Char)
  | nothing
  | parameter (quoted : Bool) (parameter : Parameter) (form : Form)
  | substitution (quoted : Bool) (body : Command)
  | arithmetic (quoted : Bool) (expression : List Part)
  | malformed

/-- What is taken of a parameter: its value, its length, another word in some cases, or what is left
of its value without a part at one end that a pattern matches. -/
inductive Form where
  | value
  | length
  | fallback (kind : Fallback) (coversEmpty : Bool) (word : List Part)
  | trimmed (front longest : Bool) (pattern : List Part)

inductive Redirection where
  | file (descriptor : Nat) (direction : Direction) (target : List Part)
  | document (descriptor : Nat) (body : List Part)

inductive Assignment where
  | mk (name : String) (value : List Part)

inductive Arm where
  | mk (patterns : List (List Part)) (body : Command)

/-- A command. Some commands know the line of the script on which they start. -/
inductive Command where
  | nothing
  | simple (line : Nat) (assignments : List Assignment) (words : List (List Part))
      (redirections : List Redirection)
  | redirected (line : Nat) (body : Command) (redirections : List Redirection)
  | sequence (first second : Command)
  | background (body : Command)
  | both (first second : Command)
  | either (first second : Command)
  | negated (body : Command)
  | pipe (source sink : Command)
  | branch (condition success failure : Command)
  | loop (runsWhile : Bool) (condition body : Command)
  | forEach (line : Nat) (name : String) (words? : Option (List (List Part))) (body : Command)
  | choose (line : Nat) (subject : List Part) (arms : List Arm)
  | isolated (body : Command)
  | define (name : String) (body : Command)

end

abbrev Word :=
  List Part

def Redirection.descriptor : Redirection → Nat
  | .file descriptor _ _ => descriptor
  | .document descriptor _ => descriptor

def plainText? (word : Word) : Option String :=
  let char? : Part → Option Char := fun
    | .char false c => some c
    | _ => none
  (word.mapM char?).map String.ofList

def startsName (c : Char) : Bool :=
  c.isAlpha || c == '_'

def isNameChar (c : Char) : Bool :=
  c.isAlphanum || c == '_'

def isName (text : List Char) : Bool :=
  text.head?.any startsName && text.all isNameChar

end OptionSchema.Shell
