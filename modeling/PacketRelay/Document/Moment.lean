import PacketRelay.Document.Number

/-!
Dates and times of a TOML document. Only their form and ranges matter: nothing
that reads a document asks for the moment itself.
-/

namespace PacketRelay.Document

def fixed? (count : Nat) (cs : Chars) : Option (Nat × Chars) :=
  let digits := cs.take count
  if digits.length = count ∧ digits.all (isDigitOf 10) then
    some (valueOf 10 digits, cs.drop count)
  else none

def within? (low high : Nat) (cs : Chars) : Option (Nat × Chars) :=
  match fixed? 2 cs with
  | some (value, rest) => if low ≤ value ∧ value ≤ high then some (value, rest) else none
  | none => none

def sign? (c : Char) : Chars → Option Chars
  | first :: rest => if first = c then some rest else none
  | [] => none

def isLeap (year : Nat) : Bool :=
  year % 4 = 0 && (year % 100 ≠ 0 || year % 400 = 0)

def daysIn (year month : Nat) : Nat :=
  if month = 2 then (if isLeap year then 29 else 28)
  else if month = 4 ∨ month = 6 ∨ month = 9 ∨ month = 11 then 30
  else 31

def date? (cs : Chars) : Option Chars := do
  let (year, cs) ← fixed? 4 cs
  let cs ← sign? '-' cs
  let (month, cs) ← within? 1 12 cs
  let cs ← sign? '-' cs
  let (_, rest) ← within? 1 (daysIn year month) cs
  return rest

-- Digits of a fraction of a second, however many.
def secondFraction? : Chars → Option Chars
  | '.' :: rest =>
      match rest.takeWhile (isDigitOf 10) with
      | [] => none
      | _ => some (rest.dropWhile (isDigitOf 10))
  | cs => some cs

/-- A time of day. The last second may be a leap second. -/
def time? (cs : Chars) : Option Chars := do
  let (_, cs) ← within? 0 23 cs
  let cs ← sign? ':' cs
  let (_, cs) ← within? 0 59 cs
  let cs ← sign? ':' cs
  let (_, cs) ← within? 0 60 cs
  secondFraction? cs

def hoursAndMinutes? (cs : Chars) : Option Chars := do
  let (_, cs) ← within? 0 23 cs
  let cs ← sign? ':' cs
  let (_, rest) ← within? 0 59 cs
  return rest

def offset? : Chars → Option Chars
  | 'Z' :: rest => some rest
  | 'z' :: rest => some rest
  | '+' :: rest => hoursAndMinutes? rest
  | '-' :: rest => hoursAndMinutes? rest
  | cs => some cs

def isTimeMark (c : Char) : Bool :=
  c = 'T' || c = 't' || c = ' '

/-- The time that may follow a date. After a blank without a time the date stands alone. -/
def timeAfterDate? : Chars → Option Chars
  | [] => some []
  | c :: rest =>
      if isTimeMark c then
        match time? rest with
        | some after => offset? after
        | none => some (c :: rest)
      else some (c :: rest)

def moment? (cs : Chars) : Option Chars :=
  match date? cs with
  | some rest => timeAfterDate? rest
  | none => time? cs

end PacketRelay.Document
