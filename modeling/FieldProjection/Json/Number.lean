import FieldProjection.Decimal.Shortest

/-!
# JSON numbers

A JSON number is an integer of at most 64 bits or a binary64 number. `Double.ofDecimal?` reads a
decimal the quick way: the significand is rounded to binary64 and then scaled by a power of ten,
and every scaling step rounds again. `Double.chars` writes the shortest decimal that stands for
the same number.
-/

namespace FieldProjection

/-- A finite binary64 number, given by its bits. -/
structure Double where
  bits : UInt64
deriving DecidableEq

namespace Double

/-- The number of a machine float. -/
def ofFloat (value : Float) : Double := ⟨value.toBits⟩

/-- The sign bit. -/
def isNegative (number : Double) : Bool :=
  number.bits >>> 63 == 1

/-- The magnitude as a binary fraction. -/
def magnitude (number : Double) : BinaryFraction :=
  let bits := number.bits.toNat
  let mantissa := bits % (1 <<< 52)
  let exponent := (bits >>> 52) % (1 <<< 11)
  if exponent = 0 then
    ⟨mantissa, -1074, false⟩
  else
    ⟨(1 <<< 52) + mantissa, Int.ofNat exponent - 1075, mantissa = 0 ∧ 1 < exponent⟩

/-- The greatest power of ten that is a finite binary64 number. -/
def maxPower : Nat := 308

/-- The binary64 number nearest to `10 ^ power`, for a power up to `maxPower`. -/
def powerOfTen (power : Nat) : Float := Float.ofScientific 1 false power

/-- Divides by `10 ^ power`, at most `10 ^ maxPower` at a time, and stops at zero. -/
def scaleDown (value : Float) (power : Nat) : Nat → Float
  | 0 => value
  | steps + 1 =>
    if power ≤ maxPower then value / powerOfTen power
    else if value == 0 then value
    else scaleDown (value / powerOfTen maxPower) (power - maxPower) steps

/-- The magnitude `significand * 10 ^ exponent`, or nothing when it is not finite. -/
def scale? (significand : UInt64) (exponent : Int) : Option Float :=
  let value := significand.toFloat
  if exponent < 0 then
    some (scaleDown value exponent.natAbs (exponent.natAbs / maxPower + 1))
  else if exponent ≤ maxPower then
    let scaled := value * powerOfTen exponent.toNat
    if scaled.isInf then none else some scaled
  else if value == 0 then
    some value
  else
    none

/-- The number `significand * 10 ^ exponent` with the given sign, or nothing on overflow. -/
def ofDecimal? (negative : Bool) (significand : UInt64) (exponent : Int) : Option Double :=
  (scale? significand exponent).map fun value => ofFloat (if negative then -value else value)

/-- The decimal digits of a natural number. -/
def digitChars (number : Nat) : List Char := Nat.toDigits 10 number

/-- Writes the decimal `digits * 10 ^ exponent`: plainly and with a fraction when its leading digit
stands for `10 ^ (-5)` to `10 ^ 15`, otherwise with a signed exponent. -/
def decimalChars (digits : List Char) (exponent : Int) : List Char :=
  let leading := exponent + digits.length - 1
  if 0 ≤ exponent ∧ leading ≤ 15 then
    digits ++ List.replicate exponent.toNat '0' ++ ['.', '0']
  else if 0 ≤ leading ∧ leading ≤ 15 then
    digits.take (leading.toNat + 1) ++ '.' :: digits.drop (leading.toNat + 1)
  else if -5 ≤ leading ∧ leading ≤ 15 then
    ['0', '.'] ++ List.replicate (-leading - 1).toNat '0' ++ digits
  else
    let fraction := if digits.length = 1 then [] else '.' :: digits.drop 1
    let sign := if leading < 0 then '-' else '+'
    digits.take 1 ++ fraction ++ 'e' :: sign :: digitChars leading.natAbs

/-- The text of a number: its shortest decimal. -/
def chars (number : Double) : List Char :=
  let magnitude := number.magnitude
  let unsigned :=
    if magnitude.significand = 0 then ['0', '.', '0']
    else
      let decimal := magnitude.shortest
      decimalChars (digitChars decimal.digits) decimal.exponent
  if number.isNegative then '-' :: unsigned else unsigned

end Double

/-- A JSON number. Integers run from `-2 ^ 63` to `2 ^ 64 - 1`. -/
inductive Number where
  | integer (value : Int)
  | double (value : Double)
deriving DecidableEq

namespace Number

/-- The digits of an integer, after a minus sign when it is negative. -/
def integerChars (value : Int) : List Char :=
  if value < 0 then '-' :: Double.digitChars value.natAbs else Double.digitChars value.natAbs

/-- The text of a number. -/
def chars : Number → List Char
  | .integer value => integerChars value
  | .double value => value.chars

end Number

end FieldProjection
