import TieredPool.Decimal.Binary64

/-!
# Shortest decimals

A binary64 number is written with the fewest digits that read back as the same number, and among
those with the digits nearest to it. Digits are placed by position: zeros fill the places up to the
point, and there is never an exponent.

The numbers that read back as `m * 2 ^ q` form an interval around it, ends included when `m` is
even. For one digit, two digits and so on, the two neighbours of the number among the decimals of so
many digits are tried; the first count of digits with a neighbour in the interval is the answer.
-/

namespace TieredPool.Binary64

/-- The interval of ratios that round to a number, over a common denominator. -/
structure Interval where
  low : Nat
  value : Nat
  high : Nat
  denominator : Nat
  /-- Do the ends belong to the interval? -/
  closed : Bool

/-- The interval of a positive significand and an exponent. -/
def interval (m : Nat) (exponent : Int) : Interval :=
  -- Below a power of two the numbers lie twice as close.
  let below := if m == 1 <<< (precision - 1) && leastExponent < exponent then 1 else 2
  let (factor, denominator) := match exponent - 2 with
    | .ofNat e => (1 <<< e, 1)
    | .negSucc e => (1, 1 <<< (e + 1))
  ⟨(4 * m - below) * factor, 4 * m * factor, (4 * m + 2) * factor, denominator, m % 2 == 0⟩

namespace Interval

/-- The place of the first digit: the value is below `10 ^ place`, and not below a tenth of that. -/
def place (i : Interval) : Int :=
  let whole := i.value / i.denominator
  if whole == 0 then
    let inverse := (i.denominator + i.value - 1) / i.value
    1 - ((Nat.toDigits 10 (inverse - 1)).length : Int)
  else ((Nat.toDigits 10 whole).length : Int)

def contains (i : Interval) (a b : Nat) : Bool :=
  let x := a * i.denominator
  if i.closed then i.low * b ≤ x && x ≤ i.high * b else i.low * b < x && x < i.high * b

/-- The best decimal `d * 10 ^ exponent` in the interval. -/
def bestAt? (i : Interval) (exponent : Int) : Option Nat :=
  let (num, den) := match exponent with
    | .ofNat e => (Nat.pow 10 e, 1)
    | .negSucc e => (1, Nat.pow 10 (e + 1))
  -- The value counted in units of `10 ^ exponent`.
  let a := i.value * den
  let b := i.denominator * num
  let d := a / b
  match i.contains (d * num) den, i.contains ((d + 1) * num) den with
  | false, false => none
  | true, false => some d
  | false, true => some (d + 1)
  | true, true => some (roundDiv a b)

/-- The shortest decimal in the interval with `digits` digits or more, and its exponent. -/
def shortestFrom (i : Interval) (place : Int) (digits : Nat) : (fuel : Nat) → Nat × Int
  | 0 => (i.value / i.denominator, 0)
  | fuel + 1 =>
    match i.bestAt? (place - digits) with
    | some d => (d, place - digits)
    | none => i.shortestFrom place (digits + 1) fuel

/-- Every binary64 number is told apart by this many digits. -/
def enoughDigits : Nat := 17

/-- The shortest decimal `d * 10 ^ e` in the interval. -/
def shortest (i : Interval) : Nat × Int := i.shortestFrom i.place 1 enoughDigits

end Interval

/-- The decimal `d * 10 ^ exponent` by position, without an exponent. -/
def positional (d : Nat) (exponent : Int) : String :=
  match exponent with
  | .ofNat e => toString (d * Nat.pow 10 e)
  | .negSucc e =>
    let places := e + 1
    let digits := Nat.toDigits 10 (d % Nat.pow 10 places)
    let fraction := List.replicate (places - digits.length) '0' ++ digits
    -- Zeros at the end say nothing.
    let fraction := (fraction.reverse.dropWhile (· == '0')).reverse
    let whole := toString (d / Nat.pow 10 places)
    if fraction.isEmpty then whole else whole ++ "." ++ String.ofList fraction

/-- The number in its shortest decimal. -/
def toDecimal : Binary64 → String
  | nan => "NaN"
  | infinite negative => if negative then "-inf" else "inf"
  | finite negative m exponent =>
    let text :=
      if m == 0 then "0"
      else
        let (d, e) := (interval m exponent).shortest
        positional d e
    if negative then "-" ++ text else text

end TieredPool.Binary64
