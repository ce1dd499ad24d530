/-!
# Double-precision numbers

A number of a document that is not a 64-bit integer is kept as a double. A `Binary64`
is the finite double `± mantissa · 2 ^ exponent`, and its arithmetic is done on the
exact fraction with one rounding at the end, to nearest and to the even mantissa on a
tie. Infinities and not-a-number do not occur in documents: an operation whose result
would be infinite answers `none`.

* `ofRatio` is the rounding, and everything else goes through it.
* `scaled` reads a decimal the way documents are read here: the significand as a
  double, times or divided by the double nearest to a power of ten.
-/

namespace Specimen

/-- The finite double `± mantissa · 2 ^ exponent`; the mantissa is below `2 ^ 53`, and
below `2 ^ 52` only at the least exponent. -/
structure Binary64 where
  negative : Bool
  mantissa : Nat
  exponent : Int
  deriving DecidableEq, Repr, Inhabited

namespace Binary64

/-- The exponent of the smallest positive double. -/
def leastExponent : Int := -1074

/-- The greatest exponent of a finite double. -/
def greatestExponent : Int := 971

/-- Positive zero. -/
def zero : Binary64 := ⟨false, 0, leastExponent⟩

/-- The absolute value as a fraction. -/
def ratio (x : Binary64) : Nat × Nat :=
  if 0 ≤ x.exponent then (x.mantissa <<< x.exponent.toNat, 1)
  else (x.mantissa, 1 <<< (-x.exponent).toNat)

/-- The quotient of `num / den` by `2 ^ e`, as a fraction. -/
def overPowerOfTwo (num den : Nat) (e : Int) : Nat × Nat :=
  if 0 ≤ e then (num, den <<< e.toNat) else (num <<< (-e).toNat, den)

/-- The natural number nearest to `num / den`, the even one on a tie. -/
def nearest (num den : Nat) : Nat :=
  let q := num / den
  let twice := 2 * (num % den)
  if twice < den then q else if den < twice then q + 1 else q + q % 2

/-- The double nearest to `num / den`; `none` when that is beyond the finite ones. -/
def ofRatio (negative : Bool) (num den : Nat) : Option Binary64 :=
  if num = 0 then some ⟨negative, 0, leastExponent⟩
  else
    -- the fraction over `2 ^ guess` is above `2 ^ 51` and below `2 ^ 53`
    let guess : Int := (num.log2 : Int) - den.log2 - 52
    let (n, d) := overPowerOfTwo num den guess
    let e := max leastExponent (if n / d < 0x10_0000_0000_0000 then guess - 1 else guess)
    let (n, d) := overPowerOfTwo num den e
    let m := nearest n d
    -- rounding up may carry into the next power of two
    let (m, e) := if m = 0x20_0000_0000_0000 then (0x10_0000_0000_0000, e + 1) else (m, e)
    if greatestExponent < e then none else some ⟨negative, m, e⟩

/-- The double nearest to a natural number below `2 ^ 1024`. -/
def ofNat (n : Nat) : Binary64 := (ofRatio false n 1).getD zero

/-- The product, rounded once. -/
def mul (x y : Binary64) : Option Binary64 :=
  let (a, b) := x.ratio
  let (c, d) := y.ratio
  ofRatio (x.negative != y.negative) (a * c) (b * d)

/-- The quotient by a number other than zero, rounded once. -/
def div (x y : Binary64) : Option Binary64 :=
  let (a, b) := x.ratio
  let (c, d) := y.ratio
  ofRatio (x.negative != y.negative) (a * d) (b * c)

/-- The number with the other sign. -/
def neg (x : Binary64) : Binary64 := { x with negative := !x.negative }

/-- The double nearest to `10 ^ k`, for `k ≤ 308`. -/
def powerOfTen (k : Nat) : Binary64 := ofNat (Nat.pow 10 k)

/-- Division by `10 ^ 308`, a number of times, each of them rounded. -/
def descend (x : Binary64) : Nat → Binary64
  | 0 => x
  | steps + 1 =>
    if x.mantissa = 0 then x else descend ((x.div (powerOfTen 308)).getD zero) steps

/-- Division by `10 ^ k` in steps of at most `10 ^ 308`, each of them rounded. -/
def overPowerOfTen (x : Binary64) (k : Nat) : Binary64 :=
  let steps := (k - 1) / 308
  let y := x.descend steps
  (y.div (powerOfTen (k - 308 * steps))).getD zero

/-- The number `significand · 10 ^ exponent` as documents are read: the significand is
rounded to a double first and then scaled. `none` when the result is not finite. -/
def scaled (significand : Nat) (exponent : Int) : Option Binary64 :=
  let x := ofNat significand
  if exponent < 0 then some (x.overPowerOfTen (-exponent).toNat)
  else if 308 < exponent then (if x.mantissa = 0 then some x else none)
  else x.mul (powerOfTen exponent.toNat)

/-- True when the number has no fractional part. -/
def isIntegral (x : Binary64) : Bool :=
  let (n, d) := x.ratio
  n % d == 0

/-- The sign and absolute value as a fraction with a signed numerator. -/
def signedRatio (x : Binary64) : Int × Nat :=
  let (n, d) := x.ratio
  (if x.negative then -(n : Int) else n, d)

end Binary64

end Specimen
