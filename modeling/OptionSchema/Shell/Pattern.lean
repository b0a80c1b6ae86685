/-!
# Patterns

A star in a pattern stands for any characters, a question mark for one, and brackets for one of a
set. Quoted characters and those behind a backslash stand for themselves.
-/

namespace OptionSchema.Shell

inductive PatternItem where
  | char (c : Char)
  | one
  | many
  | set (negated : Bool) (ranges : List (Char × Char))
  deriving DecidableEq

abbrev PatternChar :=
  Char × Bool

/-- The ranges of a set up to its closing bracket, and the number of characters up to there, after
`skip` characters that have been read already. -/
def readRanges (isFirst : Bool) : Nat → List PatternChar → Option (List (Char × Char) × Nat)
  | _, [] => none
  | skip + 1, _ :: rest => (readRanges false skip rest).map fun (ranges, n) => (ranges, n + 1)
  | 0, (c, quoted) :: rest =>
      let more (range : Char × Char) (skip : Nat) : Option (List (Char × Char) × Nat) :=
        (readRanges false skip rest).map fun (ranges, n) => (range :: ranges, n + 1)
      match c, quoted, rest with
      | ']', false, _ => if isFirst then more (']', ']') 0 else some ([], 1)
      | c, _, ('-', false) :: (last, lastQuoted) :: _ =>
          if last == ']' && !lastQuoted then more (c, c) 0 else more (c, last) 2
      | c, _, _ => more (c, c) 0

def readSet (text : List PatternChar) : Option (PatternItem × Nat) :=
  match text with
  | ('!', false) :: rest =>
      (readRanges true 0 rest).map fun (ranges, n) => (.set true ranges, n + 1)
  | text => (readRanges true 0 text).map fun (ranges, n) => (.set false ranges, n)

def patternFrom : Nat → List PatternChar → List PatternItem
  | _, [] => []
  | skip + 1, _ :: rest => patternFrom skip rest
  | 0, (c, quoted) :: rest =>
      match c, quoted with
      | '*', false => .many :: patternFrom 0 rest
      | '?', false => .one :: patternFrom 0 rest
      | '\\', false =>
          match rest with
          | (d, _) :: _ => .char d :: patternFrom 1 rest
          | [] => [.char '\\']
      | '[', false =>
          match readSet rest with
          | some (item, count) => item :: patternFrom count rest
          | none => .char '[' :: patternFrom 0 rest
      | c, _ => .char c :: patternFrom 0 rest

def anySuffix (p : List Char → Bool) : List Char → Bool
  | [] => p []
  | c :: rest => p (c :: rest) || anySuffix p rest

def fits : List PatternItem → List Char → Bool
  | [], text => text.isEmpty
  | .many :: items, text => anySuffix (fits items) text
  | .char c :: items, d :: text => c == d && fits items text
  | .one :: items, _ :: text => fits items text
  | .set negated ranges :: items, c :: text =>
      ranges.any (fun (first, last) => first ≤ c && c ≤ last) != negated && fits items text
  | _ :: _, [] => false

def trimmed (pattern : List PatternItem) (front longest : Bool) (text : List Char) : List Char :=
  let points := List.range (text.length + 1)
  let removed (point : Nat) : List Char := if front then text.take point else text.drop point
  let ordered := if front == longest then points.reverse else points
  match ordered.find? fun point => fits pattern (removed point) with
  | some point => if front then text.drop point else text.take point
  | none => text

end OptionSchema.Shell
