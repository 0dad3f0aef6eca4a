/-! Decimal text of binary floating-point numbers. Of all decimals that read back
as the same number the text has the fewest digits, and of those it is the
nearest one; a tie goes to the larger. The text is always positional: it has no
exponent, and no point when the number is whole. -/

namespace PlanTimelines.Decimal

/-- The magnitude `mantissa * 2 ^ exponent` of a finite number. -/
structure Magnitude where
  mantissa : Nat
  exponent : Int
deriving DecidableEq, Repr

namespace Magnitude

/-- The magnitude stored in the lower 63 bits of a finite number. -/
def ofBits (bits : UInt64) : Magnitude :=
  let fraction : Nat := bits.toNat % Nat.pow 2 52
  let biased : Nat := bits.toNat / Nat.pow 2 52 % Nat.pow 2 11
  if biased = 0 then ⟨fraction, -1074⟩ else ⟨Nat.pow 2 52 + fraction, (biased : Int) - 1075⟩

/-- Below a power of two the numbers lie twice as dense as above it. -/
def isDenserBelow (x : Magnitude) : Bool :=
  x.mantissa == Nat.pow 2 52 && decide (-1074 < x.exponent)

/-- Quarters of the last place from the number down to the nearest real that
another number claims. -/
def slackBelow (x : Magnitude) : Nat :=
  if x.isDenserBelow then 1 else 2

/-- A number with an even mantissa also claims the two ends of its interval. -/
def keepsEnds (x : Magnitude) : Bool :=
  x.mantissa % 2 == 0

end Magnitude

/-- A grid of decimals `d * 10 ^ place` laid over the quarters of a number's last
place: `d` stands at `d * step`, and `k` quarters stand at `k * quarter`. -/
structure Grid where
  step : Nat
  quarter : Nat

def Grid.over (x : Magnitude) (place : Int) : Grid :=
  let e := x.exponent - 2
  ⟨Nat.pow 10 place.toNat * Nat.pow 2 (-e).toNat, Nat.pow 2 e.toNat * Nat.pow 10 (-place).toNat⟩

/-- The number claims the decimal `d` of the grid. -/
def Grid.claims (g : Grid) (x : Magnitude) (d : Nat) : Bool :=
  let low := (4 * x.mantissa - x.slackBelow) * g.quarter
  let high := (4 * x.mantissa + 2) * g.quarter
  let here := d * g.step
  (decide (low < here) && decide (here < high)) ||
    (x.keepsEnds && (here == low || here == high))

/-- The decimal of the grid that stands for the number: one of its two neighbours
on the grid, the nearer if the number claims both. -/
def Grid.pick? (g : Grid) (x : Magnitude) : Option Nat :=
  let value := 4 * x.mantissa * g.quarter
  let down := value / g.step
  let up := down + 1
  match g.claims x down && decide (0 < down), g.claims x up with
  | false, false => none
  | true, false => some down
  | false, true => some up
  | true, true => if up * g.step - value ≤ value - down * g.step then some up else some down

/-- A decimal `digits * 10 ^ place`. -/
structure Scaled where
  digits : Nat
  place : Int
deriving DecidableEq, Repr

/-- Tries ever finer grids; seventeen digits always suffice. -/
def refine (x : Magnitude) : Nat → Int → Scaled
  | 0, place => ⟨0, place⟩
  | fuel + 1, place =>
    match (Grid.over x place).pick? x with
    | some d => ⟨d, place⟩
    | none => refine x fuel (place - 1)

/-- A place whose unit exceeds the number. The number is below `2 ^ n`, and
`2 ^ n` is below `10 ^ k` for `k` from `0.31 * n` on, or from `0.3 * n` on when
`n` is negative. -/
def topPlace (x : Magnitude) : Int :=
  let n := x.exponent + (x.mantissa.log2 + 1 : Nat)
  if 0 ≤ n then n * 31 / 100 + 1 else n * 3 / 10 + 1

/-- The shortest decimal that reads back as the number. -/
def shortest (x : Magnitude) : Scaled :=
  refine x 40 (topPlace x)

/-- Positional text of a decimal. -/
def Scaled.text (s : Scaled) : String :=
  let digits := Nat.toDigits 10 s.digits
  if 0 ≤ s.place then
    String.ofList (digits ++ List.replicate s.place.toNat '0')
  else
    let places := (-s.place).toNat
    let padded := List.replicate (places + 1 - digits.length) '0' ++ digits
    let whole := padded.length - places
    String.ofList (padded.take whole ++ '.' :: padded.drop whole)

/-- Text of a number: a sign also on the negative zero, `NaN` and `inf` for what
is not finite. -/
def ofFloat (x : Float) : String :=
  let bits := x.toBits
  let magnitude := Magnitude.ofBits bits
  let body :=
    if bits.toNat / Nat.pow 2 52 % Nat.pow 2 11 = 2047 then "inf"
    else if magnitude.mantissa = 0 then "0"
    else (shortest magnitude).text
  if x.isNaN then "NaN" else if bits.toNat / Nat.pow 2 63 = 1 then "-" ++ body else body

end PlanTimelines.Decimal
