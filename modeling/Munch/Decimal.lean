import Munch.Text

/-! # Decimal numbers in binary floating point

A decimal number read as a binary float of 53 bits, and the shortest decimal that reads back as it.
Both are done in whole numbers: a float is a significand times a power of two, a step of arithmetic
is a quotient rounded to the nearest float, a tie going to the even significand. -/
set_option autoImplicit false

namespace Munch

/-- The number `significand * 2 ^ exponent`, its significand below `2 ^ 53`. -/
structure Binary where
  significand : Nat
  exponent : Int
deriving DecidableEq, Repr

namespace Binary

def roundedQuotient (numerator denominator : Nat) : Nat :=
  let quotient := numerator / denominator
  let twice := 2 * (numerator % denominator)
  if twice < denominator ∨ twice = denominator ∧ quotient % 2 = 0 then quotient else quotient + 1

def ofQuotient (numerator denominator : Nat) : Binary :=
  if numerator = 0 then ⟨0, 0⟩
  else
    let estimate : Int := (Nat.log2 numerator : Int) - (Nat.log2 denominator : Int) - 53
    let large : Bool := numerator * Nat.pow 2 (-estimate).toNat ≥
      Nat.pow 2 53 * denominator * Nat.pow 2 estimate.toNat
    let exponent := max (if large then estimate + 1 else estimate) (-1074)
    let significand :=
      roundedQuotient (numerator * Nat.pow 2 (-exponent).toNat)
        (denominator * Nat.pow 2 exponent.toNat)
    if significand = Nat.pow 2 53 then ⟨Nat.pow 2 52, exponent + 1⟩ else ⟨significand, exponent⟩

def numerator (number : Binary) : Nat := number.significand * Nat.pow 2 number.exponent.toNat

def denominator (number : Binary) : Nat := Nat.pow 2 (-number.exponent).toNat

def isInfinite (number : Binary) : Bool := number.significand ≠ 0 && number.exponent > 971

def mul (first second : Binary) : Binary :=
  ofQuotient (first.numerator * second.numerator) (first.denominator * second.denominator)

def div (first second : Binary) : Binary :=
  ofQuotient (first.numerator * second.denominator) (first.denominator * second.numerator)

def powerOfTen (power : Nat) : Binary := ofQuotient (Nat.pow 10 power) 1

/-- A float times a power of ten: by one multiplication, or by divisions that take at most the power
308 each. There is none if it would be infinite. -/
def scale (number : Binary) (power : Int) : Option Binary :=
  if 308 < power.natAbs then
    if number.significand = 0 then some number
    else if 0 ≤ power then none
    else scale (number.div (powerOfTen 308)) (power + 308)
  else if 0 ≤ power then
    let product := number.mul (powerOfTen power.natAbs)
    if product.isInfinite then none else some product
  else some (number.div (powerOfTen power.natAbs))
termination_by power.natAbs

def leadingPower (numerator denominator : Nat) : Int :=
  if denominator ≤ numerator then (Nat.toDigits 10 (numerator / denominator)).length - 1
  else -(Nat.toDigits 10 ((denominator - 1) / numerator)).length

/-- The decimal `digits * 10 ^ power` on the grid of that power that reads back as the float, the
nearer one if its two neighbours on the grid both do. -/
def onGrid? (number : Binary) (power : Int) : Option Nat :=
  let shift := number.exponent - 2
  let binary (quarters : Nat) : Nat := quarters * Nat.pow 2 shift.toNat * Nat.pow 10 (-power).toNat
  let unit : Nat := Nat.pow 10 power.toNat * Nat.pow 2 (-shift).toNat
  let value := binary (4 * number.significand)
  let narrow : Bool := number.significand = Nat.pow 2 52 && number.exponent ≠ -1074
  let low := binary (4 * number.significand - if narrow then 1 else 2)
  let high := binary (4 * number.significand + 2)
  let inside (decimal : Nat) : Bool :=
    if number.significand % 2 = 0 then low ≤ decimal * unit && decimal * unit ≤ high
    else low < decimal * unit && decimal * unit < high
  let below := value / unit
  let nearer := roundedQuotient value unit
  if inside nearer then some nearer
  else if inside below then some below
  else if inside (below + 1) then some (below + 1)
  else none

/-- The first hit on the grids that begin at the given count of digits, of which each next one is
ten times as fine, and the power of its grid. -/
def shortestFrom (number : Binary) (first : Int) : Nat → Nat → Nat × Int
  | 0, _ => (0, 0)
  | tries + 1, count =>
    let power := first + 1 - count
    match number.onGrid? power with
    | some digits => (digits, power)
    | none => shortestFrom number first tries (count + 1)

/-- The digits of the shortest decimal that reads back as a positive float, without zeros behind,
and the power of ten of the last one. Seventeen digits are always enough. -/
def shortest (number : Binary) : Text × Int :=
  let found := shortestFrom number (leadingPower number.numerator number.denominator) 17 1
  let written := Text.ofNat found.1
  let digits := (written.reverse.dropWhile (· == '0')).reverse
  (digits, found.2 + (written.length - digits.length : Nat))

/-- A float in decimal: with a point, at least one digit behind it, and no exponent where the point
falls within sixteen digits of the first one or at most four zeros before it. An exponent has its
sign in front, be it minus or plus. -/
def display (number : Binary) : Text :=
  if number.significand = 0 then ['0', '.', '0']
  else
    let (digits, power) := number.shortest
    let point : Int := digits.length + power
    if 0 ≤ power ∧ point ≤ 16 then digits ++ List.replicate power.toNat '0' ++ ['.', '0']
    else if 0 < point ∧ point ≤ 16 then
      digits.take point.toNat ++ '.' :: digits.drop point.toNat
    else if -5 < point ∧ point ≤ 0 then
      '0' :: '.' :: List.replicate (-point).toNat '0' ++ digits
    else
      let tail := if digits.length = 1 then digits else digits.take 1 ++ '.' :: digits.drop 1
      let written := point - 1
      tail ++ 'e' :: (if written < 0 then '-' else '+') :: Text.ofNat written.natAbs

end Binary

end Munch
