/-!
# A stream of random words from a seed

Random values are a function of a 64-bit seed. The seed is expanded to a key of eight
32-bit words, and the key to an endless stream of words by the ChaCha block function with
eight rounds: block `n` is computed from the key and the number `n` alone, and the stream
is the blocks one after the other.

* `ChaCha.Key.ofSeed` expands a seed.
* `ChaCha.block` is the block function.
* `ChaCha.word` is the stream as a function of the position; `ChaCha.lookUp` is the same
  function on blocks that are kept once they have been computed (`lookUp_kept`).
-/

namespace Specimen.ChaCha

/-- Sixteen words: the state of the block function. -/
structure Block where
  w0 : UInt32
  w1 : UInt32
  w2 : UInt32
  w3 : UInt32
  w4 : UInt32
  w5 : UInt32
  w6 : UInt32
  w7 : UInt32
  w8 : UInt32
  w9 : UInt32
  w10 : UInt32
  w11 : UInt32
  w12 : UInt32
  w13 : UInt32
  w14 : UInt32
  w15 : UInt32
  deriving DecidableEq

/-- The words of a block in order. -/
def Block.words (b : Block) : Array UInt32 :=
  #[b.w0, b.w1, b.w2, b.w3, b.w4, b.w5, b.w6, b.w7,
    b.w8, b.w9, b.w10, b.w11, b.w12, b.w13, b.w14, b.w15]

/-- The words of a block with those of another one added. -/
def Block.add (a b : Block) : Block :=
  ⟨a.w0 + b.w0, a.w1 + b.w1, a.w2 + b.w2, a.w3 + b.w3,
    a.w4 + b.w4, a.w5 + b.w5, a.w6 + b.w6, a.w7 + b.w7,
    a.w8 + b.w8, a.w9 + b.w9, a.w10 + b.w10, a.w11 + b.w11,
    a.w12 + b.w12, a.w13 + b.w13, a.w14 + b.w14, a.w15 + b.w15⟩

/-- A word with its bits moved `k` places up, the upper ones to the lower end. -/
@[inline] def rotate (x k : UInt32) : UInt32 := (x <<< k) ||| (x >>> (32 - k))

/-- The quarter round on four words. -/
@[inline] def quarter (a b c d : UInt32) : UInt32 × UInt32 × UInt32 × UInt32 :=
  let a := a + b
  let d := rotate (d ^^^ a) 16
  let c := c + d
  let b := rotate (b ^^^ c) 12
  let a := a + b
  let d := rotate (d ^^^ a) 8
  let c := c + d
  let b := rotate (b ^^^ c) 7
  (a, b, c, d)

/-- Two rounds: the columns, then the diagonals. -/
def doubleRound (s : Block) : Block :=
  let (a0, a4, a8, a12) := quarter s.w0 s.w4 s.w8 s.w12
  let (a1, a5, a9, a13) := quarter s.w1 s.w5 s.w9 s.w13
  let (a2, a6, a10, a14) := quarter s.w2 s.w6 s.w10 s.w14
  let (a3, a7, a11, a15) := quarter s.w3 s.w7 s.w11 s.w15
  let (b0, b5, b10, b15) := quarter a0 a5 a10 a15
  let (b1, b6, b11, b12) := quarter a1 a6 a11 a12
  let (b2, b7, b8, b13) := quarter a2 a7 a8 a13
  let (b3, b4, b9, b14) := quarter a3 a4 a9 a14
  ⟨b0, b1, b2, b3, b4, b5, b6, b7, b8, b9, b10, b11, b12, b13, b14, b15⟩

/-- Eight words. -/
structure Key where
  k0 : UInt32
  k1 : UInt32
  k2 : UInt32
  k3 : UInt32
  k4 : UInt32
  k5 : UInt32
  k6 : UInt32
  k7 : UInt32
  deriving DecidableEq

/-- The next state of the seed expansion, and the word that it yields. -/
def expand (s : UInt64) : UInt64 × UInt32 :=
  let s := s * 6364136223846793005 + 11634580027462260723
  let x := (((s >>> 18) ^^^ s) >>> 27).toUInt32
  let r := (s >>> 59).toUInt32
  (s, (x >>> r) ||| (x <<< ((32 - r) % 32)))

/-- The key of a seed. -/
def Key.ofSeed (seed : UInt64) : Key :=
  let (s, k0) := expand seed
  let (s, k1) := expand s
  let (s, k2) := expand s
  let (s, k3) := expand s
  let (s, k4) := expand s
  let (s, k5) := expand s
  let (s, k6) := expand s
  let (_, k7) := expand s
  ⟨k0, k1, k2, k3, k4, k5, k6, k7⟩

/-- The state that block `n` starts from: four constants, the key and the number. -/
def initial (k : Key) (n : Nat) : Block :=
  ⟨0x61707865, 0x3320646e, 0x79622d32, 0x6b206574,
    k.k0, k.k1, k.k2, k.k3, k.k4, k.k5, k.k6, k.k7,
    UInt32.ofNat n, UInt32.ofNat (n >>> 32), 0, 0⟩

/-- Block `n` of a key. -/
def block (k : Key) (n : Nat) : Block :=
  let s := initial k n
  (doubleRound (doubleRound (doubleRound (doubleRound s)))).add s

/-- Word `i` of the stream of a key. -/
def word (k : Key) (i : Nat) : UInt32 := (block k (i / 16)).words.getD (i % 16) 0

/-- The first `n` blocks of a key, each computed when it is first asked for. -/
def kept (k : Key) (n : Nat) : Array (Thunk (Array UInt32)) :=
  Array.ofFn fun i : Fin n => Thunk.mk fun _ => (block k i).words

/-- A word of the stream, from kept blocks as far as they reach. -/
def lookUp (k : Key) (table : Array (Thunk (Array UInt32))) (i : Nat) : UInt32 :=
  if h : i / 16 < table.size then table[i / 16].get.getD (i % 16) 0 else word k i

/-- Keeping blocks does not change the stream. -/
theorem lookUp_kept (k : Key) (n i : Nat) : lookUp k (kept k n) i = word k i := by
  simp only [lookUp]
  split
  · simp [kept, word, Thunk.get]
  · rfl

end Specimen.ChaCha
