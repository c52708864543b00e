import PhotoGallery.Decimal.Binary64

/-!
# The shortest decimal of a binary number

A finite number is written with the fewest digits that read back to it, and among
the decimals of that length with the nearest one; of two equally near ones the
greater is taken.  The decimals with the fewest digits lie on the coarsest grid of
powers of ten that meets the interval of the values rounded to the number.
-/

namespace PhotoGallery.Binary64

/-- A positive multiple of a power of ten. -/
structure Decimal where
  count : Nat
  power : Int

/-- A positive finite number with the ends of its interval, in units of a quarter
of its own last place, and the power of two of that unit. -/
structure Interval where
  low : Nat
  value : Nat
  high : Nat
  power : Int
  /-- Whether the ends round to the number. -/
  closed : Bool

/-- The interval of the values that are rounded to a number.  Below a power of two
the numbers are twice as dense. -/
def interval (number : Binary64) : Interval :=
  let significand := number.significand
  let dense := significand = Nat.pow 2 52 ∧ number.exponent ≠ -1074
  { low := 4 * significand - if dense then 1 else 2
    value := 4 * significand
    high := 4 * significand + 2
    power := number.exponent - 2
    closed := significand % 2 = 0 }

/-- Two factors that turn counts of units into counts of a common unit of the
interval and the grid: first that of the interval, then that of the grid. -/
def factors (power grid : Int) : Nat × Nat :=
  (Nat.pow 2 power.toNat * Nat.pow 10 (-grid).toNat,
    Nat.pow 10 grid.toNat * Nat.pow 2 (-power).toNat)

/-- Whether a point, in the common unit, lies in an interval. -/
def Interval.holds (interval : Interval) (factor point : Nat) : Bool :=
  let low := interval.low * factor
  let high := interval.high * factor
  if interval.closed then low ≤ point && point ≤ high else low < point && point < high

/-- The nearest point of a grid in the interval, if there is one; the upper one if
the value is halfway. -/
def onGrid (interval : Interval) (grid : Int) : Option Decimal :=
  let (unit, step) := factors interval.power grid
  let value := interval.value * unit
  let below := value / step
  let above := below + 1
  let fitsBelow := interval.holds unit (below * step)
  let fitsAbove := interval.holds unit (above * step)
  if fitsBelow && (!fitsAbove || value - below * step < above * step - value) then
    some ⟨below, grid⟩
  else if fitsAbove then some ⟨above, grid⟩
  else none

/-- The grids to try, from the coarsest to the finest that can be needed. -/
def grids : List Int :=
  (List.range 660).map fun (index : Nat) => (310 - index : Int)

/-- The shortest decimal of a finite number without its sign.  Zero has no digits. -/
def shortest? (number : Binary64) : Option Decimal :=
  let interval := number.interval
  if number.magnitude = 0 then none else grids.findSome? (onGrid interval)

/-- A decimal in positional notation, with at least one digit on both sides of the
point. -/
def Decimal.positional (decimal : Decimal) : String :=
  let digits := Nat.toDigits 10 decimal.count
  let places := (-decimal.power).toNat
  if 0 ≤ decimal.power then
    String.ofList (digits ++ List.replicate decimal.power.toNat '0' ++ ['.', '0'])
  else
    let padded := List.replicate (places + 1 - digits.length) '0' ++ digits
    let whole := padded.length - places
    String.ofList (padded.take whole ++ ['.'] ++ padded.drop whole)

/-- A number in positional notation; infinities and what is no number by name. -/
def positional (number : Binary64) : String :=
  let sign := if number.isNegative then "-" else ""
  if number.isNaN then "NaN"
  else if number.isInfinite then sign ++ "inf"
  else match number.shortest? with
    | some decimal => sign ++ decimal.positional
    | none => sign ++ "0.0"

end PhotoGallery.Binary64
