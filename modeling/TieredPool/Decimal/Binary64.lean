/-!
# Binary64 numbers

A finite binary64 number is a sign and a natural number times a power of two. `Binary64.ofRatio`
rounds a ratio of natural numbers to the nearest one, a tie to the even significand, in exact
arithmetic; numbers beyond the range become infinite.
-/

namespace TieredPool

/-- A binary64 number. A finite one is `significand * 2 ^ exponent`, with a sign. -/
inductive Binary64 where
  | finite (negative : Bool) (significand : Nat) (exponent : Int)
  | infinite (negative : Bool)
  | nan
deriving DecidableEq, Repr

namespace Binary64

/-- Significands have at most this many bits. -/
def precision : Nat := 53

def leastExponent : Int := -1074

def greatestExponent : Int := 971

/-- The quotient rounded to the nearest number, a tie to the even one. -/
def roundDiv (a b : Nat) : Nat :=
  let q := a / b
  let r := a % b
  if 2 * r < b then q else if b < 2 * r then q + 1 else q + q % 2

/-- The ratio `a / b`, divided by a power of two, as a ratio. -/
def scale (a b : Nat) (exponent : Int) : Nat × Nat :=
  match exponent with
  | .ofNat e => (a, b <<< e)
  | .negSucc e => (a <<< (e + 1), b)

/-- The exponent at which a positive ratio has a significand of full precision, if it can. -/
def exponentOf (a b : Nat) : Int :=
  let low := max ((a.log2 : Int) - (b.log2 : Int) - precision) leastExponent
  let (x, y) := scale a b low
  if 1 <<< precision ≤ x / y then low + 1 else low

/-- The number nearest to the ratio `a / b`. -/
def ofRatio (negative : Bool) (a b : Nat) : Binary64 :=
  if a == 0 then finite negative 0 0
  else
    let exponent := exponentOf a b
    let (x, y) := scale a b exponent
    let m := roundDiv x y
    let (m, exponent) := if m == 1 <<< precision then (1 <<< (precision - 1), exponent + 1)
      else (m, exponent)
    if greatestExponent < exponent then infinite negative else finite negative m exponent

/-- The number nearest to a natural number. -/
def ofNat (n : Nat) : Binary64 := ofRatio false n 1

/-- Is the number neither infinite nor undefined? -/
def isFinite : Binary64 → Bool
  | finite .. => true
  | _ => false

end Binary64

end TieredPool
