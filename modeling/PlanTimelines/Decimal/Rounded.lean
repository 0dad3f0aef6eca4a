import PlanTimelines.Decimal.Shortest

/-! Decimals with a fixed number of places, and whole numbers in groups of three
digits. -/

namespace PlanTimelines.Decimal

/-- The quotient rounded to the nearest whole number, a half to the even one. -/
def roundDiv (num den : Nat) : Nat :=
  let quotient := num / den
  let rest := num % den
  if 2 * rest < den then quotient
  else if den < 2 * rest then quotient + 1
  else quotient + quotient % 2

/-- The exact value of the number, rounded to a number of places. -/
def Magnitude.rounded (x : Magnitude) (places : Nat) : Scaled :=
  let num := x.mantissa * Nat.pow 2 x.exponent.toNat * Nat.pow 10 places
  ⟨roundDiv num (Nat.pow 2 (-x.exponent).toNat), -places⟩

/-- A non-negative finite number with a number of places. -/
def fixedPlaces (x : Float) (places : Nat) : String :=
  ((Magnitude.ofBits x.toBits).rounded places).text

/-- Commas between groups of three, from the end of the reversed digits. -/
def groupReversed : List Char → List Char
  | a :: b :: c :: d :: rest => a :: b :: c :: ',' :: groupReversed (d :: rest)
  | short => short

/-- A whole number with a comma before every third digit from the end. -/
def grouped (n : Nat) : String :=
  String.ofList (groupReversed (Nat.toDigits 10 n).reverse).reverse

end PlanTimelines.Decimal
