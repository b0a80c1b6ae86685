/-!
# Flows of bytes

What a program reads or writes arrives in pieces over time. A flow can come to its end, repeat some
bytes for ever, or stay without an end although nothing more arrives. Times are in milliseconds.
Programs exchange bytes, and a shell takes no notice of the characters that they may encode.
-/

namespace OptionSchema.Shell

/-! ## Texts of bytes

Here a text has one character for each byte: the one whose code is the byte. -/

namespace ByteText

def ofBytes (bytes : ByteArray) : String :=
  String.ofList (bytes.toList.map fun byte => Char.ofNat byte.toNat)

def toBytes (text : String) : ByteArray :=
  ⟨(text.toList.map fun c => UInt8.ofNat c.toNat).toArray⟩

def encode (text : String) : String :=
  ofBytes text.toUTF8

end ByteText

/-! ## Flows -/

inductive Ending where
  | closed (time : Nat)
  | repeating (bytes : ByteArray)
  | stalled

/-- Pieces with the times of their arrival, the earliest one first, and what is behind them. -/
structure Flow where
  pieces : List (Nat × ByteArray)
  ending : Ending

namespace Flow

def empty (time : Nat) : Flow :=
  ⟨[], .closed time⟩

def ofBytes (time : Nat) (bytes : ByteArray) : Flow :=
  ⟨[(time, bytes)], .closed time⟩

def bytes (flow : Flow) : ByteArray :=
  flow.pieces.foldl (fun bytes piece => bytes ++ piece.2) ByteArray.empty

def endTime? (flow : Flow) : Option Nat :=
  match flow.ending with
  | .closed time => some time
  | _ => none

def lastTime (flow : Flow) (start : Nat) : Nat :=
  flow.pieces.foldl (fun time piece => max time piece.1) start

def map (f : ByteArray → ByteArray) (flow : Flow) : Flow where
  pieces := flow.pieces.map fun (time, bytes) => (time, f bytes)
  ending :=
    match flow.ending with
    | .repeating bytes => if (f bytes).isEmpty then .stalled else .repeating (f bytes)
    | ending => ending

def delayed (flow : Flow) (start : Nat) : Flow where
  pieces := flow.pieces.map fun (time, bytes) => (max start time, bytes)
  ending :=
    match flow.ending with
    | .closed time => .closed (max start time)
    | ending => ending

/-- The first pieces until they have at least `count` bytes, cut to that size, and how many bytes
are missing. -/
def takePieces : Nat → List (Nat × ByteArray) → List (Nat × ByteArray) × Nat
  | 0, _ => ([], 0)
  | missing, [] => ([], missing)
  | count, (time, bytes) :: rest =>
      let (more, missing) := takePieces (count - bytes.size) rest
      ((time, bytes.extract 0 count) :: more, missing)

def filled (bytes : ByteArray) (size : Nat) : ByteArray :=
  ⟨Array.ofFn fun i : Fin size => bytes.data.getD (i % bytes.size) 0⟩

/-- The first bytes of a flow. The result ends as soon as they have arrived. -/
def take (start count : Nat) (flow : Flow) : Flow :=
  let (pieces, missing) := takePieces count flow.pieces
  let last := flow.lastTime start
  let arrived := Flow.lastTime ⟨pieces, .stalled⟩ start
  if missing == 0 then ⟨pieces, .closed arrived⟩
  else
    match flow.ending with
    | .repeating bytes => ⟨pieces ++ [(last, filled bytes missing)], .closed last⟩
    | ending => ⟨pieces, ending⟩

/-- The number of bytes up to the end of a number of lines, behind those counted already, if there
are as many lines. -/
def lineSize? (counted : Nat) : Nat → List UInt8 → Option Nat
  | 0, _ => some counted
  | _ + 1, [] => none
  | lines + 1, byte :: rest =>
      lineSize? (counted + 1) (if byte == 10 then lines else lines + 1) rest

/-- The first lines of a flow. Of bytes that are repeated for ever no line is expected. -/
def takeLines (start lines : Nat) (flow : Flow) : Flow :=
  match lineSize? 0 lines flow.bytes.toList with
  | some count => flow.take start count
  | none => flow

def dropPieces : Nat → List (Nat × ByteArray) → List (Nat × ByteArray)
  | 0, pieces => pieces
  | _, [] => []
  | count, (time, bytes) :: rest =>
      if bytes.size ≤ count then dropPieces (count - bytes.size) rest
      else (time, bytes.extract count bytes.size) :: rest

def drop (count : Nat) (flow : Flow) : Flow :=
  { flow with pieces := dropPieces count flow.pieces }

end Flow

end OptionSchema.Shell
