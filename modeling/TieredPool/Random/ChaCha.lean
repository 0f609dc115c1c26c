/-!
# A stream of random words

ChaCha with twelve rounds, used as a source of random 32-bit words. The state of a block is four
constants, eight words of key, a 64-bit block counter and two zero words; a block's words are the
state after the rounds plus the state before. The key comes from a 64-bit seed by a linear
congruential generator with permuted output.
-/

namespace TieredPool.Random

def rotateLeft (x : UInt32) (n : UInt32) : UInt32 := (x <<< n) ||| (x >>> (32 - n))

/-- The word rotated to the right by less than its width. -/
def rotateRight (x : UInt32) (n : UInt32) : UInt32 :=
  if n == 0 then x else (x >>> n) ||| (x <<< (32 - n))

namespace Key

/-- The seed after one step. -/
def advance (s : UInt64) : UInt64 := s * 6364136223846793005 + 11634580027462260723

/-- The key word of a stepped seed. -/
def word (s : UInt64) : UInt32 :=
  rotateRight (((s >>> 18) ^^^ s) >>> 27).toUInt32 (s >>> 59).toUInt32

/-- So many key words of a seed. -/
def words (s : UInt64) : (count : Nat) → List UInt32
  | 0 => []
  | count + 1 => word (advance s) :: words (advance s) count

end Key

/-- The sixteen words of a block. -/
abbrev Block := Vector UInt32 16

namespace Block

/-- Mixes four words of a block. -/
def quarterRound (b : Block) (i j k l : Fin 16) : Block :=
  let a := b[i] + b[j]
  let d := rotateLeft (b[l] ^^^ a) 16
  let c := b[k] + d
  let e := rotateLeft (b[j] ^^^ c) 12
  let a := a + e
  let d := rotateLeft (d ^^^ a) 8
  let c := c + d
  let e := rotateLeft (e ^^^ c) 7
  (((b.set i a).set j e).set k c).set l d

/-- Mixes the columns, then the diagonals. -/
def doubleRound (b : Block) : Block :=
  let b := b.quarterRound 0 4 8 12
  let b := b.quarterRound 1 5 9 13
  let b := b.quarterRound 2 6 10 14
  let b := b.quarterRound 3 7 11 15
  let b := b.quarterRound 0 5 10 15
  let b := b.quarterRound 1 6 11 12
  let b := b.quarterRound 2 7 8 13
  b.quarterRound 3 4 9 14

def rounds (b : Block) : Block := Nat.repeat doubleRound 6 b

/-- The words that open every block. -/
def constants : Vector UInt32 4 := #v[0x61707865, 0x3320646e, 0x79622d32, 0x6b206574]

/-- The words that close a block: its counter, low word first, and two zeros. -/
def trailer (counter : UInt64) : Vector UInt32 4 :=
  #v[counter.toUInt32, (counter >>> 32).toUInt32, 0, 0]

/-- The block before the rounds. -/
def initial (key : Vector UInt32 8) (counter : UInt64) : Block :=
  constants ++ key ++ trailer counter

/-- The output words of a block. -/
def output (key : Vector UInt32 8) (counter : UInt64) : List UInt32 :=
  let start := initial key counter
  (Vector.zipWith (· + ·) start.rounds start).toList

end Block

/-- A stream of random words: its key, the next block and what is left of the last. -/
structure Generator where
  key : Vector UInt32 8
  counter : UInt64
  pending : List UInt32

namespace Generator

def ofSeed (seed : UInt64) : Generator :=
  let words := Key.words seed 8
  ⟨Vector.ofFn fun i => words.getD i 0, 0, []⟩

def next (g : Generator) : UInt32 × Generator :=
  match g.pending with
  | word :: pending => (word, { g with pending })
  | [] =>
    match Block.output g.key g.counter with
    | word :: pending => (word, ⟨g.key, g.counter + 1, pending⟩)
    | [] => (0, { g with counter := g.counter + 1 })

end Generator

end TieredPool.Random
