import PacketRelay.Document.Text
import PacketRelay.Document.Value

/-!
The numbers of a TOML document. Underscores may stand between digits, integers
have 64 bits, and a float that is too large for one is refused.
-/

namespace PacketRelay.Document

open Decimal (Binary64)

def isDigitOf (base : Nat) (c : Char) : Bool :=
  match hexValue? c with
  | some value => value < base
  | none => false

def moreDigits? (base : Nat) : Chars → Option (Chars × Chars)
  | [] => some ([], [])
  | '_' :: c :: rest =>
      if isDigitOf base c then (moreDigits? base rest).map fun (digits, left) => (c :: digits, left)
      else none
  | c :: rest =>
      if isDigitOf base c then (moreDigits? base rest).map fun (digits, left) => (c :: digits, left)
      else if c = '_' then none
      else some ([], c :: rest)

def digits? (base : Nat) : Chars → Option (Chars × Chars)
  | [] => none
  | c :: rest =>
      if isDigitOf base c then (moreDigits? base rest).map fun (digits, left) => (c :: digits, left)
      else none

/-- The digits of a decimal integer: a zero stands alone. -/
def wholeDigits? : Chars → Option (Chars × Chars)
  | '0' :: rest => some (['0'], rest)
  | cs => digits? 10 cs

def continued (base : Nat) (total : Nat) (digits : Chars) : Nat :=
  digits.foldl (fun total c => total * base + (hexValue? c).getD 0) total

/-- The number that digits write, read by halves, and those by halves, `depth` times over. -/
def valueByHalves (base : Nat) : Nat → Chars → Nat
  | 0, digits => continued base 0 digits
  | depth + 1, digits =>
      let half := digits.length / 2
      valueByHalves base depth (digits.take half) * Nat.pow base (digits.length - half) +
        valueByHalves base depth (digits.drop half)

-- So many digits that one after the other is as fast.
def fewDigits : Nat := 32

def valueOf (base : Nat) (digits : Chars) : Nat :=
  valueByHalves base (digits.length / fewDigits).log2 digits

theorem continued_eq (base total : Nat) (digits : Chars) :
    continued base total digits =
      total * Nat.pow base digits.length + continued base 0 digits := by
  induction digits generalizing total with
  | nil => exact (Nat.mul_one total).symm
  | cons c rest ih =>
      have first := ih (total * base + (hexValue? c).getD 0)
      have alone := ih (0 * base + (hexValue? c).getD 0)
      change continued base (total * base + (hexValue? c).getD 0) rest =
        total * (Nat.pow base rest.length * base) +
          continued base (0 * base + (hexValue? c).getD 0) rest
      rw [first, alone, Nat.add_mul, Nat.zero_mul, Nat.zero_add, Nat.add_assoc, Nat.mul_assoc,
        Nat.mul_comm base]

theorem valueByHalves_eq (base depth : Nat) (digits : Chars) :
    valueByHalves base depth digits = continued base 0 digits := by
  induction depth generalizing digits with
  | zero => rfl
  | succ depth ih =>
      have whole := congrArg (continued base 0)
        (List.take_append_drop (digits.length / 2) digits)
      rw [continued, List.foldl_append] at whole
      change continued base (continued base 0 _) _ = _ at whole
      rw [continued_eq, List.length_drop] at whole
      rw [valueByHalves, ih, ih]
      exact whole

theorem valueOf_eq (base : Nat) (digits : Chars) :
    valueOf base digits = continued base 0 digits :=
  valueByHalves_eq base _ digits

def takeSign : Chars → Bool × Chars
  | '+' :: rest => (false, rest)
  | '-' :: rest => (true, rest)
  | cs => (false, cs)

def signed (negative : Bool) (n : Nat) : Int :=
  if negative then -(n : Int) else n

def minInteger : Int := -9223372036854775808

def maxInteger : Int := 9223372036854775807

def integer? (value : Int) : Option Value :=
  if minInteger ≤ value ∧ value ≤ maxInteger then some (.integer value) else none

def fraction? : Chars → Option (Chars × Chars)
  | '.' :: rest => digits? 10 rest
  | cs => some ([], cs)

def exponent? : Chars → Option (Int × Chars)
  | c :: rest =>
      if c = 'e' ∨ c = 'E' then
        let (negative, after) := takeSign rest
        (digits? 10 after).map fun (digits, left) => (signed negative (valueOf 10 digits), left)
      else some (0, c :: rest)
  | [] => some (0, [])

-- Only the positive infinity counts as too large.
def float? (negative : Bool) (digits : Chars) (exponent : Int) : Option Value :=
  let significant := digits.dropWhile (· = '0')
  match Binary64.ofDecimal negative significant.length (valueOf 10 significant) exponent with
  | .infinite false => none
  | value => some (.float value)

def special? (negative : Bool) : Chars → Option (Value × Chars)
  | 'i' :: 'n' :: 'f' :: rest => some (.float (.infinite negative), rest)
  | 'n' :: 'a' :: 'n' :: rest => some (.float .notANumber, rest)
  | _ => none

def marksFloat : Chars → Bool
  | c :: _ => c = '.' || c = 'e' || c = 'E'
  | [] => false

def decimal? (negative : Bool) (cs : Chars) : Option (Value × Chars) := do
  let (whole, afterWhole) ← wholeDigits? cs
  let (fraction, afterFraction) ← fraction? afterWhole
  let (exponent, rest) ← exponent? afterFraction
  let value ←
    if marksFloat afterWhole then float? negative (whole ++ fraction) (exponent - fraction.length)
    else integer? (signed negative (valueOf 10 whole))
  return (value, rest)

def based? (base : Nat) (cs : Chars) : Option (Value × Chars) := do
  let (digits, rest) ← digits? base cs
  let value ← integer? (valueOf base digits)
  return (value, rest)

def number? : Chars → Option (Value × Chars)
  | '0' :: 'x' :: rest => based? 16 rest
  | '0' :: 'o' :: rest => based? 8 rest
  | '0' :: 'b' :: rest => based? 2 rest
  | cs =>
      let (negative, rest) := takeSign cs
      special? negative rest <|> decimal? negative rest

end PacketRelay.Document
