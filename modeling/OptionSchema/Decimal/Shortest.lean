/-!
# The shortest decimal of a binary number

A binary number stands for all reals that round to it. Among the decimals in that interval the one
with the fewest digits is taken, and among several of that length the one nearest to the number.
The search goes through the decimal grids, the coarsest first: a grid has a point in the interval
if one of the number's two neighbours on the grid is there.
-/

namespace OptionSchema.Decimal

/-- A point of a decimal grid, the number `digits * 10 ^ exponent`. -/
structure Point where
  digits : Nat
  exponent : Int
  deriving DecidableEq

/-- The number `mantissa * 2 ^ exponent`. Its lower neighbour is only half as far away as the upper
one if `narrow` holds. -/
structure Binary where
  mantissa : Nat
  exponent : Int
  narrow : Bool

def Binary.ofFloat (x : Float) : Binary :=
  let bits := x.toBits.toNat
  let fraction : Nat := bits % 0x10_0000_0000_0000
  let biased : Nat := bits / 0x10_0000_0000_0000 % 0x800
  if biased == 0 then ⟨fraction, -1074, false⟩
  else ⟨fraction + 0x10_0000_0000_0000, (biased : Int) - 1075, fraction == 0 && biased != 1⟩

/-- Four times the mantissa at the lower end of the interval that rounds to the number. -/
def Binary.low (b : Binary) : Nat :=
  4 * b.mantissa - (if b.narrow then 1 else 2)

/-- Four times the mantissa at the upper end of the interval that rounds to the number. -/
def Binary.high (b : Binary) : Nat :=
  4 * b.mantissa + 2

/-- `n * 2 ^ (exponent - 2)` in units of `10 ^ grid`, as a numerator and a denominator. -/
def Binary.inUnits (b : Binary) (grid : Int) (n : Nat) : Nat × Nat :=
  let scale := b.exponent - 2
  (n * Nat.pow 2 scale.toNat * Nat.pow 10 (-grid).toNat,
    Nat.pow 2 (-scale).toNat * Nat.pow 10 grid.toNat)

/-- Whether the point `d` of a grid lies in the interval that rounds to the number. The ends belong
to the interval if the mantissa is even. -/
def Binary.covers (b : Binary) (grid : Int) (d : Nat) : Bool :=
  let (low, unit) := b.inUnits grid b.low
  let (high, _) := b.inUnits grid b.high
  if b.mantissa % 2 == 0 then low ≤ d * unit && d * unit ≤ high
  else low < d * unit && d * unit < high

/-- The point of a grid that is nearest to the number among its two neighbours there, if any of them
rounds to the number. Of two at the same distance the even one is taken. -/
def Binary.onGrid? (b : Binary) (grid : Int) : Option Point :=
  let (value, unit) := b.inUnits grid (4 * b.mantissa)
  let below := value / unit
  let above := below + 1
  let remainder := value % unit
  match b.covers grid below, b.covers grid above with
  | true, true =>
      let lower := 2 * remainder < unit || (2 * remainder == unit && below % 2 == 0)
      some ⟨if lower then below else above, grid⟩
  | true, false => some ⟨below, grid⟩
  | false, true => some ⟨above, grid⟩
  | false, false => none

/-- The first of the given number of grids, each ten times as fine as the one before it, that has a
point in the interval. -/
def Binary.search (b : Binary) : Nat → Int → Point
  | 0, _ => ⟨0, 0⟩
  | grids + 1, grid =>
      match b.onGrid? grid with
      | some point => point
      | none => b.search grids (grid - 1)

/-- A decimal exponent above that of the number. -/
def Binary.coarsest (b : Binary) : Int :=
  ((b.mantissa.log2 : Int) + b.exponent) * 30103 / 100000 + 1

/-- The shortest decimal that rounds to a positive number. Seventeen digits always do, so the search
ends before the twentieth grid. -/
def Binary.shortest (b : Binary) : Point :=
  b.search 20 b.coarsest

end OptionSchema.Decimal
