import Specimen.Decimal.Binary64

/-!
# The shortest decimal of a double

A double is written with the fewest significant digits that still read back as the same
double, and of the decimals of that length with the one nearest to it. The doubles that
round to `x` fill an interval around it, whose ends belong to it exactly when the
mantissa is even. On the grid of decimals with `n` digits only the two neighbours of the
value matter: if any point of the grid lies in the interval, one of them does.

* `shortest` gives the digits and the power of ten of the first of them.
* `Layout.render` writes digits and power of ten out; `plainLayout` is the layout of
  documents and messages: positional from `10 ^ -5` up to below `10 ^ 16`, always with a
  point, and beyond that with a signed exponent.
-/

namespace Specimen.Binary64

/-- Comparison of fractions: `a / b < c / d`. -/
def ratioLt (x y : Nat × Nat) : Bool := x.1 * y.2 < y.1 * x.2

/-- The interval of reals that round to the positive double `x`: its two ends, as
fractions. The gap below is half as wide just above a power of two. -/
def interval (x : Binary64) : (Nat × Nat) × (Nat × Nat) :=
  let scale (n : Nat) : Nat × Nat :=
    let e := x.exponent - 2
    if 0 ≤ e then (n <<< e.toNat, 1) else (n, 1 <<< (-e).toNat)
  let below := if x.mantissa = 0x10_0000_0000_0000 ∧ leastExponent < x.exponent
    then 4 * x.mantissa - 1 else 4 * x.mantissa - 2
  (scale below, scale (4 * x.mantissa + 2))

/-- True when the fraction `y` rounds to the positive double `x`. -/
def roundsTo (x : Binary64) (y : Nat × Nat) : Bool :=
  let (low, high) := x.interval
  if x.mantissa % 2 = 0 then !ratioLt y low && !ratioLt high y
  else ratioLt low y && ratioLt y high

/-- The fraction `n · 10 ^ k`. -/
def decimalRatio (n : Nat) (k : Int) : Nat × Nat :=
  if 0 ≤ k then (n * Nat.pow 10 k.toNat, 1) else (n, Nat.pow 10 (-k).toNat)

/-- The number of decimal digits of a positive number. -/
def digitCount (n : Nat) : Nat := (Nat.toDigits 10 n).length

/-- The least `k` of `fuel` many from `k` on with `den ≤ num · 10 ^ k`. -/
def stepsToOne (num den : Nat) : Nat → Nat → Nat
  | 0, k => k
  | fuel + 1, k => if den ≤ num * Nat.pow 10 k then k else stepsToOne num den fuel (k + 1)

/-- The power of ten of the first digit of a positive fraction below `10 ^ 309` and not
below `10 ^ -400`. -/
def leadingPower (num den : Nat) : Int :=
  if den ≤ num then (digitCount (num / den) : Int) - 1
  else -(stepsToOne num den 400 1 : Int)

/-- The better of the two neighbours of the positive double `x` on the grid of `n`
digits, if one of them rounds to `x`: its digits and their power of ten. -/
def onGrid (x : Binary64) (n : Nat) : Option (Nat × Int) :=
  let (num, den) := x.ratio
  let k := leadingPower num den - (n - 1 : Nat)
  let (sn, sd) := decimalRatio 1 k
  -- the neighbours are `low` and `low + 1`, in units of `10 ^ k`
  let low := num * sd / (den * sn)
  let fits (d : Nat) : Bool := 0 < d && x.roundsTo (decimalRatio d k)
  let twice := 2 * (num * sd - low * (den * sn))
  let nearerLow := twice < den * sn || (twice == den * sn && low % 2 == 0)
  match fits low, fits (low + 1) with
  | true, true => some (if nearerLow then low else low + 1, k)
  | true, false => some (low, k)
  | false, true => some (low + 1, k)
  | false, false => none

/-- Digits without the zeros at their end, with the power of ten that this gives. -/
def stripZeros : Nat → Nat × Int → Nat × Int
  | 0, d => d
  | fuel + 1, (d, k) => if d % 10 = 0 ∧ d ≠ 0 then stripZeros fuel (d / 10, k + 1) else (d, k)

/-- The first grid with a neighbour that reads back, among `fuel` many from `n` digits
on. -/
def firstGrid (x : Binary64) : Nat → Nat → Nat × Int
  | 0, _ => (x.mantissa, 0)
  | fuel + 1, n => (x.onGrid n).getD (firstGrid x fuel (n + 1))

/-- The fewest digits that read back as the positive double `x`, and their power of
ten. Seventeen always suffice. -/
def shortest (x : Binary64) : Nat × Int := stripZeros 17 (firstGrid x 17 1)

/-- How digits and a power of ten are written. -/
structure Layout where
  /-- Leading powers of ten from here on are positional … -/
  positionalFrom : Int
  /-- … up to this one. -/
  positionalTo : Int
  /-- What stands after the digits of a positional integer. -/
  integerTail : String
  /-- What stands before the exponent, when it is not negative and when it is. -/
  exponentMark : String × String

/-- Documents and messages: positional from `0.00001` to below `10 ^ 16`, a point in
every positional number, and an exponent with its sign otherwise. -/
def plainLayout : Layout where
  positionalFrom := -5
  positionalTo := 15
  integerTail := ".0"
  exponentMark := ("e+", "e-")

/-- Zeros as text. -/
def zeros (n : Nat) : String := String.ofList (List.replicate n '0')

/-- The digits `d · 10 ^ k` in a layout. -/
def Layout.render (l : Layout) (d : Nat) (k : Int) : String :=
  let digits := Nat.toDigits 10 d
  let lead : Int := k + digits.length - 1
  if l.positionalFrom ≤ lead ∧ lead ≤ l.positionalTo then
    if 0 ≤ k then String.ofList digits ++ zeros k.toNat ++ l.integerTail
    else if 0 ≤ lead then
      let whole := (lead + 1).toNat
      String.ofList (digits.take whole) ++ "." ++ String.ofList (digits.drop whole)
    else "0." ++ zeros (-lead - 1).toNat ++ String.ofList digits
  else
    let mark := if 0 ≤ lead then l.exponentMark.1 else l.exponentMark.2
    let fraction := match digits.tail with
      | [] => ""
      | rest => "." ++ String.ofList rest
    String.ofList (digits.take 1) ++ fraction ++ mark ++ toString lead.natAbs

/-- The text of a double in the plain layout. -/
def text (x : Binary64) : String :=
  let body :=
    if x.mantissa = 0 then "0.0"
    else
      let (d, k) := x.shortest
      plainLayout.render d k
  if x.negative then "-" ++ body else body

end Specimen.Binary64
