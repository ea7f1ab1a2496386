/-!
# Decimals and floating point numbers

A floating point number is shown by the shortest decimal that reads back as the same number, and by
the nearest one if there are several of that length. A decimal is read as the nearest floating point
number, and of two equally near ones as the one with the even significand. Everything here is exact
arithmetic, on the number written as `m · 2 ^ q` and on the decimal written as a fraction; only the
bits of a result become a floating point number.

The numbers that read back form an interval, which reaches half way to the neighbours on both sides.
Its ends belong to it exactly if `m` is even. The decimals of a given precision form a grid, and if
any point of a grid lies in the interval then so does one of the two that enclose the number.

A significand has 53 bits, or fewer at the least exponent. The bits of a number are its exponent and
then its significand without the leading bit, so that rounding up past the last significand carries
into the exponent by itself.

There are two ways to write a floating point number. Both write a point and at least one digit
behind it, so that the number never looks like an integer. The positional layout never uses an
exponent; the mixed layout uses one below `10 ^ -5` and from `10 ^ 16` on.

## Main definitions

* `Decimal`: a decimal `digits · 10 ^ exponent`.
* `Binary.ofFloat`, `Binary.shortest`: a positive number as `m · 2 ^ q`, and its shortest decimal.
* `Decimal.toFloat`: the floating point number nearest to a decimal.
* `Decimal.signedText`: a number with a sign, in one of the layouts.
-/

namespace Scaffold

/-! ### Shortest decimals -/

/-- The decimal `digits · 10 ^ exponent`. -/
structure Decimal where
  digits : Nat
  exponent : Int
  deriving DecidableEq, Repr

/-- The number `m · 2 ^ q`. The gap to the number below is half of that to the number above if `m`
is the least one of its size. -/
structure Binary where
  m : Nat
  q : Int
  isLeast : Bool
  deriving DecidableEq, Repr

namespace Binary

/-- A positive floating point number, given by its bits. -/
def ofBits (bits : Nat) : Binary :=
  let fraction : Nat := bits % Nat.pow 2 52
  let exponent : Nat := bits / Nat.pow 2 52 % Nat.pow 2 11
  if exponent = 0 then ⟨fraction, -1074, false⟩
  else ⟨Nat.pow 2 52 + fraction, (exponent : Int) - 1075, fraction = 0 && exponent ≠ 1⟩

/-- A positive floating point number. -/
def ofFloat (x : Float) : Binary :=
  ofBits x.toBits.toNat

/-- The size of a quarter unit and that of a grid step, brought to a common denominator. -/
def scales (b : Binary) (exponent : Int) : Nat × Nat :=
  let binary := b.q - 2
  (Nat.pow 2 binary.toNat * Nat.pow 10 (-exponent).toNat,
    Nat.pow 10 exponent.toNat * Nat.pow 2 (-binary).toNat)

/-- The lower end of the interval, in quarter units. -/
def lowerEnd (b : Binary) : Nat :=
  if b.isLeast then 4 * b.m - 1 else 4 * b.m - 2

/-- The upper end of the interval, in quarter units. -/
def upperEnd (b : Binary) : Nat := 4 * b.m + 2

/-- Whether the decimal `digits · 10 ^ exponent` reads back as the number. -/
def readsBack (b : Binary) (exponent : Int) (digits : Nat) : Bool :=
  let (unit, step) := b.scales exponent
  if b.m % 2 = 0 then
    b.lowerEnd * unit ≤ digits * step && digits * step ≤ b.upperEnd * unit
  else
    b.lowerEnd * unit < digits * step && digits * step < b.upperEnd * unit

/-- The nearest point of a grid that reads back, the even one of two equally near points. -/
def onGrid? (b : Binary) (exponent : Int) : Option Decimal :=
  let (unit, step) := b.scales exponent
  let value := 4 * b.m * unit
  let below := value / step
  let above := below + 1
  match b.readsBack exponent below, b.readsBack exponent above with
  | false, false => none
  | true, false => some ⟨below, exponent⟩
  | false, true => some ⟨above, exponent⟩
  | true, true =>
    let toBelow := value - below * step
    let toAbove := above * step - value
    if toBelow < toAbove || (toBelow = toAbove && below % 2 = 0) then some ⟨below, exponent⟩
    else some ⟨above, exponent⟩

/-- The point on the coarsest of the grids with the exponents from `exponent` down, of which `count`
are tried. -/
def searchGrids (b : Binary) : (count : Nat) → (exponent : Int) → Decimal
  | 0, exponent => ⟨0, exponent⟩
  | count + 1, exponent =>
    match b.onGrid? exponent with
    | some d => d
    | none => searchGrids b count (exponent - 1)

/-- The shortest decimal that reads back as the number. -/
def shortest (b : Binary) : Decimal :=
  b.searchGrids 700 310

end Binary

/-! ### Layouts -/

namespace Decimal

/-- The digits of a decimal, as characters. -/
def digitChars (d : Decimal) : List Char :=
  Nat.toDigits 10 d.digits

/-- The number of digits in front of the point; nonpositive if the first digit is behind it. -/
def pointPosition (d : Decimal) : Int :=
  (d.digitChars.length : Int) + d.exponent

/-- A decimal without an exponent. -/
def positional (d : Decimal) : String :=
  let digits := d.digitChars
  let point := d.pointPosition
  if 0 ≤ d.exponent then
    String.ofList (digits ++ List.replicate d.exponent.toNat '0') ++ ".0"
  else if 0 < point then
    String.ofList (digits.take point.toNat) ++ "." ++ String.ofList (digits.drop point.toNat)
  else
    "0." ++ String.ofList (List.replicate (-point).toNat '0' ++ digits)

/-- An exponent with its sign. -/
def exponentText (e : Int) : String :=
  if 0 ≤ e then "e+" ++ Nat.repr e.toNat else "e-" ++ Nat.repr (-e).toNat

/-- A decimal with one digit in front of the point and an exponent. A single digit has no point. -/
def scientific (d : Decimal) : String :=
  let exponent := exponentText (d.pointPosition - 1)
  match d.digitChars with
  | [] => exponent
  | [c] => String.singleton c ++ exponent
  | c :: rest => String.singleton c ++ "." ++ String.ofList rest ++ exponent

/-- A decimal in the mixed layout. -/
def mixed (d : Decimal) : String :=
  let point := d.pointPosition
  if -5 < point && point ≤ 16 then d.positional else d.scientific

/-- A number with a sign, in a layout for its magnitude. -/
def signedText (layout : Decimal → String) (x : Float) : String :=
  let sign := if x.toBits.toNat / Nat.pow 2 63 = 1 then "-" else ""
  if x.isNaN then "NaN"
  else if x.isInf then sign ++ "inf"
  else if x == 0 then sign ++ "0.0"
  else sign ++ layout (Binary.ofFloat x.abs).shortest

end Decimal

/-! ### Nearest numbers -/

/-- The integer nearest to a quotient, the even one of two equally near ones. -/
def roundQuotient (num den : Nat) : Nat :=
  let below := num / den
  let rest := num % den
  if 2 * rest < den || (2 * rest = den && below % 2 = 0) then below else below + 1

namespace Decimal

/-- A decimal as a fraction. -/
def fraction (d : Decimal) : Nat × Nat :=
  (d.digits * Nat.pow 10 d.exponent.toNat, Nat.pow 10 (-d.exponent).toNat)

/-- A quotient multiplied by a power of two, as a fraction. -/
def scaled (num den : Nat) (power : Int) : Nat × Nat :=
  (num * Nat.pow 2 power.toNat, den * Nat.pow 2 (-power).toNat)

/-- The number of bits of a significand behind its leading one. -/
def significandBits : Nat := 52

/-- The least exponent of the last bit of a significand. -/
def leastExponent : Int := -1074

/-- The exponent of the last bit of the significand of the numbers around a quotient. -/
def unitExponent (num den : Nat) : Int :=
  let guess : Int := (num.log2 : Int) - den.log2 - significandBits
  let (n, d) := scaled num den (-guess)
  max leastExponent (if n < Nat.pow 2 significandBits * d then guess - 1 else guess)

/-- The exponents from this one on are beyond all finite numbers. -/
def infiniteExponent : Nat := 2047

/-- The bits of the nearest number, as far as there are numbers. -/
def nearestBits (d : Decimal) : Nat :=
  let (num, den) := d.fraction
  let unit := unitExponent num den
  let (n, m) := scaled num den (-unit)
  min ((unit - leastExponent).toNat * Nat.pow 2 significandBits + roundQuotient n m)
    (infiniteExponent * Nat.pow 2 significandBits)

/-- The powers of ten beyond this one make every number of one digit zero or infinite. -/
def maxPower : Nat := 400

/-- The nearest floating point number, which is infinite beyond all finite ones. -/
def toFloat (d : Decimal) : Float :=
  if d.digits = 0 ∨ d.exponent < -((maxPower : Int) + (Nat.log2 d.digits)) then 0
  else if (maxPower : Int) < d.exponent then 1 / 0
  else Float.ofBits (UInt64.ofNat d.nearestBits)

end Decimal

end Scaffold
