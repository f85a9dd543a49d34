/-!
Binary floating-point numbers of 64 bits, as exact values: `mantissa * 2 ^ exponent`
with a mantissa below 2^53. A decimal is read to the nearest of them, and a tie
goes to the even mantissa.
-/

namespace PacketRelay.Decimal

inductive Binary64 where
  | finite (negative : Bool) (mantissa : Nat) (exponent : Int)
  | infinite (negative : Bool)
  | notANumber
  deriving DecidableEq, Repr

structure Ratio where
  numerator : Nat
  denominator : Nat

namespace Ratio

def scale (base : Nat) (exponent : Int) (ratio : Ratio) : Ratio :=
  if 0 ≤ exponent then { ratio with numerator := ratio.numerator * Nat.pow base exponent.toNat }
  else { ratio with denominator := ratio.denominator * Nat.pow base (-exponent).toNat }

def floor (ratio : Ratio) : Nat :=
  ratio.numerator / ratio.denominator

def round (ratio : Ratio) : Nat :=
  let below := ratio.floor
  let left := 2 * (ratio.numerator % ratio.denominator)
  if ratio.denominator < left ∨ (left = ratio.denominator ∧ below % 2 = 1) then below + 1
  else below

end Ratio

namespace Binary64

def minExponent : Int := -1074

def maxExponent : Int := 971

def mantissaBound : Nat := 9007199254740992

-- The exponent that leaves a 53-bit integer part.
def chooseExponent (ratio : Ratio) : Int :=
  let guess : Int := (ratio.numerator.log2 : Int) - (ratio.denominator.log2 : Int) - 53
  let chosen := if (ratio.scale 2 (-guess)).floor < mantissaBound then guess else guess + 1
  max chosen minExponent

def ofRatio (negative : Bool) (ratio : Ratio) : Binary64 :=
  if ratio.numerator = 0 then .finite negative 0 minExponent
  else
    let exponent := chooseExponent ratio
    let mantissa := (ratio.scale 2 (-exponent)).round
    let (mantissa, exponent) :=
      if mantissa = mantissaBound then (mantissa / 2, exponent + 1) else (mantissa, exponent)
    if maxExponent < exponent then .infinite negative else .finite negative mantissa exponent

-- Outside these magnitudes every decimal is infinite or zero, whatever its digits.
def hugeMagnitude : Int := 400

/-- The number nearest to `digits * 10 ^ exponent`, where `count` is how many digits there are. -/
def ofDecimal (negative : Bool) (count digits : Nat) (exponent : Int) : Binary64 :=
  let magnitude := (count : Int) + exponent
  if digits = 0 ∨ magnitude < -hugeMagnitude then .finite negative 0 minExponent
  else if hugeMagnitude < magnitude then .infinite negative
  else ofRatio negative (Ratio.scale 10 exponent ⟨digits, 1⟩)

end Binary64
end PacketRelay.Decimal
