import OptionSchema.Json.Tree

/-!
# Bodies of strings

Between its quotes a string has escapes. Writing escapes the quote, the backslash and the control
characters only. Reading resolves every escape of the grammar; characters beyond U+FFFF are escaped
as a pair of surrogates, and surrogates that do not pair up cannot be read.
-/

namespace OptionSchema.Json

inductive EscapeError where
  | pairEnds
  | loneSurrogate
  deriving DecidableEq

def codeUnit (a b c d : Char) : Nat :=
  Text.digitsValue 16 [a, b, c, d]

def isLeadingSurrogate (unit : Nat) : Bool :=
  0xD800 ≤ unit && unit ≤ 0xDBFF

def isTrailingSurrogate (unit : Nat) : Bool :=
  0xDC00 ≤ unit && unit ≤ 0xDFFF

def paired (leading trailing : Nat) : Char :=
  Char.ofNat ((leading - 0xD800) * 0x400 + (trailing - 0xDC00) + 0x10000)

def shortEscape (c : Char) : Char :=
  match c with
  | 'b' => '\x08'
  | 'f' => '\x0c'
  | 'n' => '\n'
  | 'r' => '\r'
  | 't' => '\t'
  | c => c

def unescape : List Char → Except EscapeError (List Char)
  | [] => .ok []
  | '\\' :: 'u' :: a :: b :: c :: d :: rest =>
      let unit := codeUnit a b c d
      if isTrailingSurrogate unit then .error .loneSurrogate
      else if isLeadingSurrogate unit then
        match rest with
        | '\\' :: 'u' :: e :: f :: g :: h :: rest =>
            let next := codeUnit e f g h
            if isTrailingSurrogate next then (unescape rest).map (paired unit next :: ·)
            else .error .loneSurrogate
        | _ => .error .pairEnds
      else (unescape rest).map (Char.ofNat unit :: ·)
  | '\\' :: c :: rest => (unescape rest).map (shortEscape c :: ·)
  | c :: rest => (unescape rest).map (c :: ·)

def hexDigit (n : Nat) : Char :=
  Nat.digitChar n

def escapedChar (c : Char) : List Char :=
  match c with
  | '"' => ['\\', '"']
  | '\\' => ['\\', '\\']
  | '\x08' => ['\\', 'b']
  | '\x0c' => ['\\', 'f']
  | '\n' => ['\\', 'n']
  | '\r' => ['\\', 'r']
  | '\t' => ['\\', 't']
  | c =>
      if c.toNat < 0x20 then ['\\', 'u', '0', '0', hexDigit (c.toNat / 16), hexDigit (c.toNat % 16)]
      else [c]

def escape (text : List Char) : List Char :=
  text.flatMap escapedChar

end OptionSchema.Json
