import TieredPool.Decimal.Binary64

/-!
# Reading decimals

The written forms of numbers. An integer is a run of digits in some base, perhaps after a sign. A
decimal number is a sign, digits with at most one point among them, and perhaps an exponent; it is
read as the nearest binary64 number. The words for infinity and for an undefined number are read in
any case.
-/

namespace TieredPool.Decimal

/-- The value of a digit of a base up to sixteen. -/
def digit? (base : Nat) (c : Char) : Option Nat :=
  let value :=
    if '0' ≤ c ∧ c ≤ '9' then c.toNat - '0'.toNat
    else if 'a' ≤ c ∧ c ≤ 'f' then c.toNat - 'a'.toNat + 10
    else if 'A' ≤ c ∧ c ≤ 'F' then c.toNat - 'A'.toNat + 10
    else base
  if value < base then some value else none

/-- The number that a run of digits continues. -/
def digitsAfter? (base n : Nat) : List Char → Option Nat
  | [] => some n
  | c :: rest =>
    match digit? base c with
    | none => none
    | some d => digitsAfter? base (n * base + d) rest

/-- The number that a run of digits stands for; there must be one digit at least. -/
def natural? (base : Nat) (digits : List Char) : Option Nat :=
  if digits.isEmpty then none else digitsAfter? base 0 digits

/-- A natural number of a base, perhaps after a plus. -/
def unsigned? (base : Nat) : List Char → Option Nat
  | '+' :: digits => natural? base digits
  | digits => natural? base digits

/-- An integer of a base, perhaps after a sign. -/
def signed? (base : Nat) : List Char → Option Int
  | '-' :: digits => (natural? base digits).map fun n => -(n : Int)
  | '+' :: digits => (natural? base digits).map Int.ofNat
  | digits => (natural? base digits).map Int.ofNat

def isDigit (c : Char) : Bool := '0' ≤ c && c ≤ '9'

/-- The digits at the start of a text, and the rest. -/
def spanDigits (text : List Char) : List Char × List Char :=
  (text.takeWhile isDigit, text.dropWhile isDigit)

/-- Exponents further out than this change nothing any more. -/
def exponentBound : Int := 100000

/-- An exponent at the end of a text: nothing, or its mark and an integer. -/
def exponent? : List Char → Option Int
  | [] => some 0
  | c :: text =>
    if c == 'e' || c == 'E' then
      (signed? 10 text).map fun e => max (-exponentBound) (min exponentBound e)
    else none

/-- The number nearest to `d * 10 ^ exponent`. -/
def round (negative : Bool) (d : Nat) (exponent : Int) : Binary64 :=
  let place := ((Nat.toDigits 10 d).length : Int) + exponent
  if d == 0 || place < -400 then .finite negative 0 0
  else if 400 < place then .infinite negative
  else
    match exponent with
    | .ofNat e => Binary64.ofRatio negative (d * Nat.pow 10 e) 1
    | .negSucc e => Binary64.ofRatio negative d (Nat.pow 10 (e + 1))

/-- A number without a sign. -/
def magnitude? (negative : Bool) (text : List Char) : Option Binary64 :=
  let lower := String.ofList (text.map Char.toLower)
  if lower == "inf" || lower == "infinity" then some (.infinite negative)
  else if lower == "nan" then some .nan
  else
    let (whole, text) := spanDigits text
    let (fraction, text) := match text with
      | '.' :: text => spanDigits text
      | text => ([], text)
    match natural? 10 (whole ++ fraction), exponent? text with
    | some d, some exponent => some (round negative d (exponent - fraction.length))
    | _, _ => none

/-- A decimal number, perhaps after a sign. -/
def number? : List Char → Option Binary64
  | '-' :: text => magnitude? true text
  | '+' :: text => magnitude? false text
  | text => magnitude? false text

end TieredPool.Decimal
