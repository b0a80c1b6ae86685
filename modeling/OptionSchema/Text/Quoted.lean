import OptionSchema.Text.Letter
import OptionSchema.Text.Utf8

/-!
# Quoted texts

A quoted text stands between double quotes. Inside, the quote and the backslash follow a backslash,
the usual controls are written `\n`, `\r`, `\t` and `\0`, and every other character that is not
visible by itself is written by its code point in hexadecimal, as in `\u{200b}`. A byte that is part
of no character is written in two hexadecimal digits, as in `\xFF`.
-/

namespace OptionSchema.Text

def hexadecimal (n : Nat) : List Char :=
  Nat.toDigits 16 n

def quotedChar (c : Char) : List Char :=
  match c with
  | '\x00' => ['\\', '0']
  | '\t' => ['\\', 't']
  | '\r' => ['\\', 'r']
  | '\n' => ['\\', 'n']
  | '"' => ['\\', '"']
  | '\\' => ['\\', '\\']
  | c => if isVisible c then [c] else ['\\', 'u', '{'] ++ hexadecimal c.toNat ++ ['}']

def quoted (text : List Char) : List Char :=
  '"' :: text.flatMap quotedChar ++ ['"']

def quotedText (text : String) : String :=
  String.ofList (quoted text.toList)

def quotedByte (b : UInt8) : List Char :=
  let digits := [b.toNat / 16, b.toNat % 16].map Nat.digitChar
  ['\\', 'x'] ++ digits.map Char.toUpper

def quotedBytes (bytes : ByteArray) : String :=
  let body := (cells bytes).flatMap fun
    | .char c => quotedChar c
    | .stray b => quotedByte b
  String.ofList ('"' :: body ++ ['"'])

end OptionSchema.Text
