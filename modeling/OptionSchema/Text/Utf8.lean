/-!
# Bytes that may not be UTF-8

A sequence of bytes is read as characters and broken parts. A broken part is as long as possible: a
byte that starts a character together with the bytes after it that could still belong to one, or a
single byte that starts none. `lossy` puts one replacement character in place of each broken part,
`cells` marks each of its bytes.
-/

namespace OptionSchema.Text

def bytes (text : String) : List UInt8 :=
  text.toUTF8.data.toList

/-- A character, or bytes that are part of none. -/
inductive Segment where
  | char (c : Char)
  | broken (bytes : List UInt8)

def followers? (lead : UInt8) : Option (List (UInt8 × UInt8)) :=
  let any : UInt8 × UInt8 := (0x80, 0xBF)
  if lead < 0x80 then some []
  else if lead < 0xC2 then none
  else if lead < 0xE0 then some [any]
  else if lead == 0xE0 then some [(0xA0, 0xBF), any]
  else if lead == 0xED then some [(0x80, 0x9F), any]
  else if lead < 0xF0 then some [any, any]
  else if lead == 0xF0 then some [(0x90, 0xBF), any, any]
  else if lead < 0xF4 then some [any, any, any]
  else if lead == 0xF4 then some [(0x80, 0x8F), any, any]
  else none

/-- The longest start of a byte sequence whose bytes lie in the given ranges one by one. -/
def following : List (UInt8 × UInt8) → List UInt8 → List UInt8
  | (low, high) :: ranges, b :: bytes =>
      if low ≤ b && b ≤ high then b :: following ranges bytes else []
  | _, _ => []

def assembled (lead : UInt8) (followers : List UInt8) : Char :=
  let head : Nat :=
    match followers.length with
    | 0 => lead.toNat
    | 1 => lead.toNat - 0xC0
    | 2 => lead.toNat - 0xE0
    | _ => lead.toNat - 0xF0
  Char.ofNat (followers.foldl (fun code b => code * 64 + (b.toNat - 0x80)) head)

/-- Reads characters and broken parts after `skip` bytes that belong to the segment read last. -/
def segmentsFrom : Nat → List UInt8 → List Segment
  | _, [] => []
  | skip + 1, _ :: bytes => segmentsFrom skip bytes
  | 0, lead :: bytes =>
      match followers? lead with
      | none => .broken [lead] :: segmentsFrom 0 bytes
      | some ranges =>
          let found := following ranges bytes
          if found.length == ranges.length then
            .char (assembled lead found) :: segmentsFrom found.length bytes
          else .broken (lead :: found) :: segmentsFrom found.length bytes

def segments (bytes : ByteArray) : List Segment :=
  segmentsFrom 0 bytes.toList

/-- The text of a byte sequence, with U+FFFD in place of each broken part. -/
def lossy (bytes : ByteArray) : List Char :=
  (segments bytes).map fun
    | .char c => c
    | .broken _ => '\uFFFD'

/-- A character of a text, or one byte that is part of no character. -/
inductive Cell where
  | char (c : Char)
  | stray (b : UInt8)

def cells (bytes : ByteArray) : List Cell :=
  (segments bytes).flatMap fun
    | .char c => [.char c]
    | .broken part => part.map .stray

/-- A character that takes one byte and has no meaning in any format of this library; it stands in
for a stray byte while the text around it is scanned. -/
def Cell.standIn : Cell → Char
  | .char c => c
  | .stray _ => '\x7f'

def Cell.isStray : Cell → Bool
  | .char _ => false
  | .stray _ => true

end OptionSchema.Text
