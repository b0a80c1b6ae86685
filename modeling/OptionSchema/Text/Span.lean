/-!
# Spans of code points

Character properties and case mappings are given by tables of spans. A span holds every `step`-th
code point from `first` to `last`, so that one entry can cover an alphabet in which capital and
small letters alternate.
-/

namespace OptionSchema.Text

/-- The code points `first`, `first + step`, `first + 2 * step`, … up to `last`. -/
structure Span where
  first : Nat
  last : Nat
  step : Nat

def Span.contains (span : Span) (code : Nat) : Bool :=
  span.first ≤ code && code ≤ span.last && (code - span.first) % span.step == 0

/-- A span whose code points are all mapped to ones at the same distance. -/
structure Shift where
  span : Span
  distance : Int

def listed (table : List Span) (c : Char) : Bool :=
  table.any (·.contains c.toNat)

def shifted? (table : List Shift) (c : Char) : Option Char :=
  (table.find? (·.span.contains c.toNat)).map fun shift =>
    Char.ofNat ((c.toNat : Int) + shift.distance).toNat

end OptionSchema.Text
