import TieredPool.Random.ChaCha

/-!
# Random bursts

A number from one up to a bound is drawn by multiplying a random word with the bound and keeping the
upper half. When the lower half lies so near its end that another word could carry over, a second
word is drawn and its carry is added. Words have 32 bits if the bound has no more, and 64 bits else.
A worker's bursts are such draws from the stream of its seed.
-/

namespace TieredPool.Random

/-- The number of different words that are drawn for a bound. -/
def wordBound (bound : Nat) : Nat := if bound < 1 <<< 32 then 1 <<< 32 else 1 <<< 64

/-- A random word for a bound. A long one is made of two of the stream's, the lower half first. -/
def word (bound : Nat) (g : Generator) : Nat × Generator :=
  let (low, g) := g.next
  if bound < 1 <<< 32 then (low.toNat, g)
  else
    let (high, g) := g.next
    (low.toNat + (high.toNat <<< 32), g)

/-- A number from one up to the bound, which is a positive word. -/
def upTo (bound : Nat) (g : Generator) : Nat × Generator :=
  let words := wordBound bound
  let (x, g) := word bound g
  let high := x * bound / words
  let low := x * bound % words
  if words - bound < low then
    let (y, g) := word bound g
    let carry := if words ≤ low + y * bound / words then 1 else 0
    (1 + high + carry, g)
  else (1 + high, g)

/-- So many draws, after those in `drawn`, the latest first. One that does not fit is the last. -/
def draws (fits : Nat → Bool) (bound : Nat) (g : Generator) (drawn : List Nat) :
    (count : Nat) → List Nat
  | 0 => drawn.reverse
  | count + 1 =>
    let (n, g) := upTo bound g
    if fits n then draws fits bound g (n :: drawn) count else (n :: drawn).reverse

/--
The bursts of so many rounds, up to the first that does not fit. From nothing nothing can be drawn:
a bound of zero gives a single burst of zero if there are rounds at all.
-/
def bursts (fits : Nat → Bool) (seed : UInt64) (bound rounds : Nat) : List Nat :=
  if bound == 0 then (if rounds == 0 then [] else [0])
  else draws fits bound (Generator.ofSeed seed) [] rounds

end TieredPool.Random
