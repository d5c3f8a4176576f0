set_option autoImplicit false

/-!
# The exact decimal value of a double

Every finite double is an integer times a power of ten, because `2^-n = 5^n * 10^-n`. `Exact` holds
that integer, the power, and the distance to the next larger double in the same unit, so that all
questions about rounding become comparisons of natural numbers. `shortest` answers the question for
the fewest digits that still name the same double. The value of a string of digits stands here too,
for numerals as well as for the parts of a date.
-/
namespace TimeSeries.Decimal

def digitsValue (digits : List Char) : Nat :=
  digits.foldl (fun n c => 10 * n + (c.toNat - '0'.toNat)) 0

/-- The magnitude `units * 10^-places` of a finite double. -/
structure Exact where
  units : Nat
  places : Nat
  /-- the distance to the next larger double, in units -/
  gap : Nat
  /-- the next smaller double is only half as far away -/
  narrowBelow : Bool
  /-- the ends of the rounding interval belong to it -/
  closed : Bool

/-- The value `mantissa * 2^(power - 1075)`. -/
def Exact.ofBinary (mantissa power : Nat) (narrowBelow : Bool) : Exact :=
  if 1075 ≤ power then
    ⟨mantissa * Nat.pow 2 (power - 1075), 0, Nat.pow 2 (power - 1075), narrowBelow,
      mantissa % 2 == 0⟩
  else
    ⟨mantissa * Nat.pow 5 (1075 - power), 1075 - power, Nat.pow 5 (1075 - power), narrowBelow,
      mantissa % 2 == 0⟩

def exponentBits (x : Float) : Nat := x.toBits.toNat / Nat.pow 2 52 % Nat.pow 2 11

def fractionBits (x : Float) : Nat := x.toBits.toNat % Nat.pow 2 52

def isNegative (x : Float) : Bool := Nat.pow 2 63 ≤ x.toBits.toNat

def Exact.ofFloat (x : Float) : Exact :=
  if exponentBits x = 0 then .ofBinary (fractionBits x) 1 false
  else .ofBinary (Nat.pow 2 52 + fractionBits x) (exponentBits x) (fractionBits x == 0)

/-- Whether `candidate` units lie in the interval of the reals that round to this double. -/
def Exact.readsBack (x : Exact) (candidate : Nat) : Bool :=
  let low := 4 * x.units - (if x.narrowBelow then x.gap else 2 * x.gap)
  let high := 4 * x.units + 2 * x.gap
  if x.closed then low ≤ 4 * candidate && 4 * candidate ≤ high
  else low < 4 * candidate && 4 * candidate < high

/-- The multiple of `10^g` that reads back, the closer one of two and the larger one on a tie. -/
def Exact.onGrid (x : Exact) (g : Nat) : Option Nat :=
  let below := x.units / Nat.pow 10 g * Nat.pow 10 g
  let above := below + Nat.pow 10 g
  match x.readsBack below, x.readsBack above with
  | true, true => some (if 2 * x.units < below + above then below else above)
  | true, false => some below
  | false, true => some above
  | false, false => none

/-- The hit on the coarsest grid from `10^g` down; the grid of single units always has one. -/
def Exact.coarsest (x : Exact) : Nat → Nat
  | 0 => x.units
  | g + 1 => (x.onGrid (g + 1)).getD (x.coarsest g)

def digitCount (n : Nat) : Nat := (Nat.toDigits 10 n).length

/-- The units with the fewest significant digits that read back as this double. -/
def Exact.shortest (x : Exact) : Nat := x.coarsest (digitCount x.units - 1)

/-- The value as a natural number, when it is one. -/
def Exact.toNat? (x : Exact) : Option Nat :=
  if x.units % Nat.pow 10 x.places = 0 then some (x.units / Nat.pow 10 x.places) else none

end TimeSeries.Decimal
