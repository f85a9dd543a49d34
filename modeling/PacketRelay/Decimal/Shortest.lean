import PacketRelay.Decimal.Binary64

/-!
The text of a floating-point number: the fewest digits that read back, of those
the nearest, written out in full without an exponent and always with a point.
-/

namespace PacketRelay.Decimal

structure Scaled where
  digits : Nat
  exponent : Int
  deriving DecidableEq, Repr

namespace Binary64

/-- The numbers that read back as a given one, in quarters of its last place. -/
structure Span where
  low : Nat
  high : Nat
  closed : Bool

def span (mantissa : Nat) (exponent : Int) : Span :=
  -- Below a power of two the neighbour is twice as near.
  let narrow := mantissa = mantissaBound / 2 ∧ minExponent < exponent
  { low := if narrow then 4 * mantissa - 1 else 4 * mantissa - 2
    high := 4 * mantissa + 2
    closed := mantissa % 2 = 0 }

def Span.holds (span : Span) (quarters : Ratio) : Bool :=
  let low := span.low * quarters.denominator
  let high := span.high * quarters.denominator
  if span.closed then low ≤ quarters.numerator && quarters.numerator ≤ high
  else low < quarters.numerator && quarters.numerator < high

def leadingZeros (ratio : Ratio) : Nat :=
  let reached (zeros : Nat) : Bool := ratio.denominator ≤ ratio.numerator * Nat.pow 10 (zeros + 1)
  ((List.range hugeMagnitude.toNat).find? reached).getD 0

/-- The least `k` with `ratio < 10 ^ k`. -/
def magnitude (ratio : Ratio) : Int :=
  if ratio.denominator ≤ ratio.numerator then (Nat.toDigits 10 ratio.floor).length
  else -(leadingZeros ratio : Int)

-- Rounding up to the next power of ten leaves one digit.
def settle (places candidate : Nat) (unit : Int) : Scaled :=
  if candidate = Nat.pow 10 places then ⟨1, unit + places⟩ else ⟨candidate, unit⟩

/-- The decimal with `places` digits that reads back, if there is one: the
nearer of two, on a tie the higher. -/
def onGrid (mantissa : Nat) (exponent : Int) (places : Nat) : Option Scaled :=
  let value := Ratio.scale 2 exponent ⟨mantissa, 1⟩
  let unit := magnitude value - places
  let steps := value.scale 10 (-unit)
  let below := steps.floor
  let fits (candidate : Nat) : Bool :=
    (span mantissa exponent).holds
      ((Ratio.scale 10 unit ⟨candidate * 4, 1⟩).scale 2 (-exponent))
  let left := steps.numerator % steps.denominator
  let nearer := if 2 * left < steps.denominator then below else below + 1
  let other := if 2 * left < steps.denominator then below + 1 else below
  if fits nearer then some (settle places nearer unit)
  else if fits other then some (settle places other unit)
  else none

def maxPlaces : Nat := 17

def shortest (mantissa : Nat) (exponent : Int) : Scaled :=
  let found := (List.range maxPlaces).findSome? fun n => onGrid mantissa exponent (n + 1)
  found.getD ⟨mantissa, 0⟩

end Binary64

namespace Scaled

def positional (decimal : Scaled) : String :=
  let digits := Nat.toDigits 10 decimal.digits
  if 0 ≤ decimal.exponent then
    String.ofList (digits ++ List.replicate decimal.exponent.toNat '0' ++ ['.', '0'])
  else
    let places := (-decimal.exponent).toNat
    let padded := List.replicate (places + 1 - digits.length) '0' ++ digits
    let whole := padded.length - places
    String.ofList (padded.take whole ++ '.' :: padded.drop whole)

end Scaled

namespace Binary64

def sign (negative : Bool) : String :=
  if negative then "-" else ""

def text : Binary64 → String
  | .notANumber => "NaN"
  | .infinite negative => sign negative ++ "inf"
  | .finite negative 0 _ => sign negative ++ "0.0"
  | .finite negative mantissa exponent => sign negative ++ (shortest mantissa exponent).positional

end Binary64
end PacketRelay.Decimal
