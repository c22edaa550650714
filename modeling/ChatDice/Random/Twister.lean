import ChatDice.Random.DieSource

/-!
# ChatDice.Random.Twister — the seeded source

The Mersenne Twister MT19937 with 32-bit words, seeded by an integer: a seed gives the same rolls
every time. A die is rolled by rejection: as many bits as the number of sides has are drawn until
they spell a number below it, so that all faces are equally likely.

* `Twister.ofSeed` — the generator of a seed;
* `Twister.bits` — a number of so many random bits;
* `Twister.upTo` — a number up to a bound.
-/

namespace ChatDice

/-- The state of the generator: 624 words, and how many of them have been given out. -/
structure Twister where
  words : Array UInt32
  used : Nat
deriving Inhabited

namespace Twister

/-- The number of words in the state. -/
def size : Nat := 624

/-! ## Seeding -/

/-- Mixes a word with its upper bits, as both ways of seeding do. -/
def stir (w : UInt32) : UInt32 := w ^^^ (w >>> 30)

/-- The words that one word expands to. -/
def expand (seed : UInt32) : Array UInt32 := Id.run do
  let mut ws := (#[] : Array UInt32).push seed
  let mut last := seed
  for i in [1:size] do
    last := 1812433253 * stir last + i.toUInt32
    ws := ws.push last
  return ws

/-- The words that a non-empty key expands to. -/
def expandKey (key : Array UInt32) : Array UInt32 := Id.run do
  let mut ws := expand 19650218
  let mut i := 1
  let mut j := 0
  for _ in [0:max size key.size] do
    let w := (ws.getD i 0 ^^^ (stir (ws.getD (i - 1) 0) * 1664525)) + key.getD j 0 + j.toUInt32
    ws := ws.setIfInBounds i w
    i := i + 1
    j := j + 1
    if i ≥ size then
      ws := ws.setIfInBounds 0 (ws.getD (size - 1) 0)
      i := 1
    if j ≥ key.size then
      j := 0
  for _ in [1:size] do
    let w := (ws.getD i 0 ^^^ (stir (ws.getD (i - 1) 0) * 1566083941)) - i.toUInt32
    ws := ws.setIfInBounds i w
    i := i + 1
    if i ≥ size then
      ws := ws.setIfInBounds 0 (ws.getD (size - 1) 0)
      i := 1
  return ws.setIfInBounds 0 0x80000000

/-- A number in words of 32 bits, least significant first; zero has one word. -/
def wordsOf (n : Nat) : List UInt32 :=
  if n < UInt32.size then [n.toUInt32] else n.toUInt32 :: wordsOf (n / UInt32.size)
termination_by n
decreasing_by
  have : 0 < UInt32.size := by decide
  exact Nat.div_lt_self (by omega) (by decide)

/-- The generator of a seed. The sign of the seed makes no difference. -/
def ofSeed (seed : Int) : Twister :=
  { words := expandKey (wordsOf seed.natAbs).toArray, used := size }

/-! ## Drawing -/

/-- The next generation of the words. -/
def regenerate (words : Array UInt32) : Array UInt32 := Id.run do
  let mut ws := words
  for i in [0:size] do
    let y := (ws.getD i 0 &&& 0x80000000) ||| (ws.getD ((i + 1) % size) 0 &&& 0x7fffffff)
    -- The words behind `i` are still the old ones, those in front of it are new.
    let odd : UInt32 := if y &&& 1 = 1 then 0x9908b0df else 0
    ws := ws.setIfInBounds i (ws.getD ((i + 397) % size) 0 ^^^ (y >>> 1) ^^^ odd)
  return ws

/-- Spreads the bits of a word before it is given out. -/
def temper (w : UInt32) : UInt32 :=
  let w := w ^^^ (w >>> 11)
  let w := w ^^^ ((w <<< 7) &&& 0x9d2c5680)
  let w := w ^^^ ((w <<< 15) &&& 0xefc60000)
  w ^^^ (w >>> 18)

/-- The next word. -/
def word (t : Twister) : UInt32 × Twister :=
  let t := if t.used < size then t else { words := regenerate t.words, used := 0 }
  (temper (t.words.getD t.used 0), { t with used := t.used + 1 })

/-- A number of `k` random bits: whole words, least significant first, and of the last word its
upper bits. -/
def bits (k : Nat) (t : Twister) : Nat × Twister :=
  let (w, t) := t.word
  -- Of a word that is not needed whole, the upper bits are kept.
  if k ≤ 32 then (w.toNat >>> (32 - k), t)
  else
    let (high, t) := bits (k - 32) t
    (w.toNat + UInt32.size * high, t)
termination_by k

instance (top : Nat) : Nonempty (Fin (top + 1) × Twister) :=
  ⟨⟨0, Nat.succ_pos top⟩, default⟩

/-- A number up to `top`: as many bits as its successor has are drawn until they spell one. Every
draw succeeds with a probability of at least one half, but no number of draws is enough for sure. -/
def upTo (top : Nat) (t : Twister) : Fin (top + 1) × Twister :=
  Id.run <| t |> repeatM fun t =>
    let (n, t) := t.bits ((top + 1).log2 + 1)
    if h : n < top + 1 then .inr (⟨n, h⟩, t) else .inl t

/-- A draw that does not succeed is made again, from where it has left the words. -/
theorem upTo_eq (top : Nat) (t : Twister) :
    t.upTo top =
      let (n, t) := t.bits ((top + 1).log2 + 1)
      if h : n < top + 1 then (⟨n, h⟩, t) else t.upTo top := by
  rw [upTo, repeatM_eq_of_monadTail]
  simp only [repeatM.body, Id.run]
  split
  · rfl
  · rfl

/-- One die: a number below the number of its sides, counted from one. No one rolls a die without
sides. -/
def roll : (sides : Nat) → Twister → Nat × Twister
  | 0, t => (0, t)
  | top + 1, t =>
    let (n, t) := t.upTo top
    (n + 1, t)

instance : DieSource Twister := ⟨roll⟩

instance : LawfulDieSource Twister where
  one_le_roll sides t h := by
    cases sides with
    | zero => exact absurd h (by decide)
    | succ top => exact Nat.succ_pos _
  roll_le sides t h := by
    cases sides with
    | zero => exact absurd h (by decide)
    | succ top => exact (t.upTo top).1.isLt

end Twister

end ChatDice
