import Specimen.Random.ChaCha

/-!
# Random draws

Everything random is drawn from an endless stream of 32-bit words, one after the other;
no word is skipped and none is used twice. A draw therefore depends on the words from the
present position on and on nothing else.

* `Draw.word32`, `word64` and `word128` join words, the lower ones first.
* `Draw.below` and `Draw.range` map one or two numbers to a range; what is drawn lies in the
  range (`below_lt`).
* `Draw.uniform` rejects the draws that would favour some values.
-/

namespace Specimen

/-- A stream of random words and the number of those already used. -/
structure Draws where
  stream : Nat → UInt32
  position : Nat

namespace Draws

/-- The unused stream of a key, of which some first blocks are kept. -/
def ofKey (key : ChaCha.Key) (blocks : Nat) : Draws :=
  let table := ChaCha.kept key blocks
  ⟨ChaCha.lookUp key table, 0⟩

theorem ofKey_stream (key : ChaCha.Key) (blocks : Nat) :
    (ofKey key blocks).stream = ChaCha.word key := funext (ChaCha.lookUp_kept key blocks)

/-- The unused stream of a seed. -/
def ofSeed (seed : UInt64) : Draws := ofKey (.ofSeed seed) 4096

instance : Inhabited Draws := ⟨⟨fun _ => 0, 0⟩⟩

end Draws

/-- A value that is drawn. -/
abbrev Draw := StateM Draws

namespace Draw

/-- One word as a number below `2 ^ 32`. -/
def word32 : Draw Nat := fun d =>
  ((d.stream d.position).toNat, { d with position := d.position + 1 })

/-- Two words as a number below `2 ^ 64`. -/
def word64 : Draw Nat := do
  let low ← word32
  let high ← word32
  return low + 0x1_0000_0000 * high

/-- Four words as a number below `2 ^ 128`. -/
def word128 : Draw Nat := do
  let low ← word64
  let high ← word64
  return low + 0x1_0000_0000_0000_0000 * high

/-- How wide the numbers are that a range is drawn from. -/
inductive Width where
  | w32
  | w64
  | w128
  deriving DecidableEq, Repr

namespace Width

/-- The number of values of a width. -/
def count : Width → Nat
  | w32 => 0x1_0000_0000
  | w64 => 0x1_0000_0000_0000_0000
  | w128 => 0x1_0000_0000_0000_0000_0000_0000_0000_0000

/-- A number of a width. -/
def draw : Width → Draw Nat
  | w32 => word32
  | w64 => word64
  | w128 => word128

/-- The width for a number whose greatest value is `high`. -/
def ofHigh (high : Nat) : Width := if high < 0x1_0000_0000 then w32 else w64

end Width

/-- A number below `n`. The product of `n` and a random number of the width is cut at the
width; when the lower part is so high that a second number could carry into the upper
part, that number is drawn too. -/
def below (w : Width) (n : Nat) : Draw Nat := do
  let product := (← w.draw) * n
  let upper := product / w.count
  let lower := product % w.count
  if w.count - n < lower then
    -- only here can the lower part of a finer product still carry
    let more := (← w.draw) * n / w.count
    return if w.count ≤ lower + more then upper + 1 else upper
  else return upper

/-- A number from `low` to `high`, both included. A range of all numbers of the width is
drawn as it is. -/
def range (w : Width) (low high : Int) : Draw Int := do
  let n := (high - low + 1).toNat % w.count
  let offset ← if n = 0 then w.draw else below w n
  return low + offset

/-- The index of one of `n` things. -/
def index (n : Nat) : Draw Nat := below (.ofHigh (n - 1)) n

/-- A fair coin. -/
def flip : Draw Bool := do return (← word64) < 0x8000_0000_0000_0000

/-- How often `uniform` draws before it takes what it has. -/
def uniformTries : Nat := 1024

/-- A number below `n`, each with the same chance: the words that would favour some
numbers are drawn again. -/
def uniform (n : Nat) : Draw Nat := go uniformTries
where
  /-- Draws at most as often as the fuel says. -/
  go : Nat → Draw Nat
    | 0 => return 0
    | fuel + 1 => do
      let product := (← word32) * n
      if product % 0x1_0000_0000 < 0x1_0000_0000 % n then go fuel
      else return product / 0x1_0000_0000

/-! ### Bounds -/

theorem word32_lt (d : Draws) : (word32 d).1 < 0x1_0000_0000 :=
  (d.stream d.position).toNat_lt

theorem word64_apply (d : Draws) :
    (word64 d).1 = (word32 d).1 + 0x1_0000_0000 * (word32 (word32 d).2).1 := rfl

theorem word64_lt (d : Draws) : (word64 d).1 < 0x1_0000_0000_0000_0000 := by
  have h₁ := word32_lt d
  have h₂ := word32_lt (word32 d).2
  rw [word64_apply]
  omega

theorem word128_apply (d : Draws) :
    (word128 d).1 = (word64 d).1 + 0x1_0000_0000_0000_0000 * (word64 (word64 d).2).1 := rfl

theorem word128_lt (d : Draws) : (word128 d).1 < 0x1_0000_0000_0000_0000_0000_0000_0000_0000 := by
  have h₁ := word64_lt d
  have h₂ := word64_lt (word64 d).2
  rw [word128_apply]
  omega

theorem Width.draw_lt (w : Width) (d : Draws) : (w.draw d).1 < w.count := by
  cases w
  · exact word32_lt d
  · exact word64_lt d
  · exact word128_lt d

theorem mul_div_lt {c n x : Nat} (hx : x < c) (hn : 0 < n) : x * n / c < n := by
  have hc : 0 < c := by omega
  rw [Nat.div_lt_iff_lt_mul hc, Nat.mul_comm n c]
  exact Nat.mul_lt_mul_of_pos_right hx hn

/-- The upper part carries only when it stays below `n`. -/
theorem carry_lt {c n x : Nat} (hx : x < c) (hn : 0 < n) (hlow : c - n < x * n % c) :
    x * n / c + 1 < n := by
  have hlt := mul_div_lt hx hn
  rcases Nat.lt_or_ge (x * n / c + 1) n with h | h
  · exact h
  · exfalso
    have heq : x * n / c = n - 1 := by omega
    have hdiv := Nat.div_add_mod (x * n) c
    rw [heq] at hdiv
    have hx' : x * n ≤ (c - 1) * n := Nat.mul_le_mul_right n (by omega)
    have h₁ : (c - 1) * n = c * n - n := by rw [Nat.sub_mul, Nat.one_mul]
    have h₂ : c * (n - 1) = c * n - c := by rw [Nat.mul_sub, Nat.mul_one]
    have h₃ : c ≤ c * n := Nat.le_mul_of_pos_right c hn
    omega

theorem below_apply (w : Width) (n : Nat) (d : Draws) :
    (below w n d).1 =
      if w.count - n < (w.draw d).1 * n % w.count then
        if w.count ≤ (w.draw d).1 * n % w.count + (w.draw (w.draw d).2).1 * n / w.count then
          (w.draw d).1 * n / w.count + 1
        else (w.draw d).1 * n / w.count
      else (w.draw d).1 * n / w.count := by
  rcases hx : w.draw d with ⟨x, e⟩
  simp only [below, bind, StateT.bind, pure, hx]
  split <;> rfl

/-- A number drawn below `n` is below `n`. -/
theorem below_lt (w : Width) {n : Nat} (hn : 0 < n) (d : Draws) : (below w n d).1 < n := by
  have hx := w.draw_lt d
  rw [below_apply]
  split
  · next h =>
    split
    · exact carry_lt hx hn h
    · exact mul_div_lt hx hn
  · exact mul_div_lt hx hn

end Draw

end Specimen
