import Chance.Sampler

/-!
The generator behind seeds: the keystream of the ChaCha cipher with twelve rounds, read as words of
64 bits, under a key that a linear congruential generator makes from the seed.
-/

namespace Chance

structure Keystream where
  key : Vector UInt32 8
  position : Nat

namespace Keystream

def rotateLeft (x : UInt32) (n : UInt32) : UInt32 := (x <<< n) ||| (x >>> (32 - n))

def rotateRight (x : UInt32) (n : UInt32) : UInt32 := (x >>> n) ||| (x <<< (32 - n))

def nextSeed (seed : UInt64) : UInt64 := seed * 6364136223846793005 + 11634580027462260723

def keyWord (seed : UInt64) : UInt32 :=
  rotateRight (((seed >>> 18) ^^^ seed) >>> 27).toUInt32 (seed >>> 59).toUInt32

def seedAfter (seed : UInt64) : Nat → UInt64
  | 0 => seed
  | n + 1 => nextSeed (seedAfter seed n)

def keyOfSeed (seed : UInt64) : Vector UInt32 8 :=
  Vector.ofFn fun i => keyWord (seedAfter seed (i.val + 1))

abbrev Block := Vector UInt32 16

def quarterRound (x : Block) (a b c d : Fin 16) : Block :=
  let mix (x : Block) (i j k : Fin 16) (n : UInt32) : Block :=
    let x := x.set i (x[i] + x[j])
    x.set k (rotateLeft (x[k] ^^^ x[i]) n)
  mix (mix (mix (mix x a b d 16) c d b 12) a b d 8) c d b 7

def doubleRound (x : Block) : Block :=
  let x := quarterRound x 0 4 8 12
  let x := quarterRound x 1 5 9 13
  let x := quarterRound x 2 6 10 14
  let x := quarterRound x 3 7 11 15
  let x := quarterRound x 0 5 10 15
  let x := quarterRound x 1 6 11 12
  let x := quarterRound x 2 7 8 13
  quarterRound x 3 4 9 14

def initialBlock (key : Vector UInt32 8) (counter : UInt64) : Block :=
  #v[0x61707865, 0x3320646e, 0x79622d32, 0x6b206574,
    key[0], key[1], key[2], key[3], key[4], key[5], key[6], key[7],
    counter.toUInt32, (counter >>> 32).toUInt32, 0, 0]

def block (key : Vector UInt32 8) (counter : UInt64) : Block :=
  let start := initialBlock key counter
  let mixed := Nat.repeat doubleRound 6 start
  mixed.zipWith (· + ·) start

def wordAt (key : Vector UInt32 8) (position : Nat) : UInt64 :=
  let b := block key (UInt64.ofNat (position / 8))
  let i := 2 * (position % 8)
  have : i < 15 := by omega
  b[i].toUInt64 ||| (b[i + 1].toUInt64 <<< 32)

def ofSeed (seed : UInt64) : Keystream := ⟨keyOfSeed seed, 0⟩

end Keystream

instance : WordSource Keystream where
  word s := (Keystream.wordAt s.key s.position, { s with position := s.position + 1 })

end Chance
