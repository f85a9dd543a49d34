import Mathlib.Data.Nat.Digits.Defs
import PacketRelay.Document.Moment

/-!
The integers of a document as they may be written, and read back. Main statement: any
way to write an integer of 64 bits is read as that integer, and not as a date or a time.
-/

namespace PacketRelay.Document

def digitTable : List (Char × Nat) :=
  "0123456789abcdef".toList.zipIdx ++ "ABCDEF".toList.zipIdx 10

/-- A text of digits, the most significant first, with at most one underscore between two. -/
inductive Numeral (base : Nat) : Chars → List Nat → Prop
  | last {c : Char} {n : Nat} (digit : (c, n) ∈ digitTable) (small : n < base) :
      Numeral base [c] [n]
  | next {c : Char} {n : Nat} {text : Chars} {digits : List Nat} (digit : (c, n) ∈ digitTable)
      (small : n < base) (later : Numeral base text digits) : Numeral base (c :: text) (n :: digits)
  | spaced {c : Char} {n : Nat} {text : Chars} {digits : List Nat} (digit : (c, n) ∈ digitTable)
      (small : n < base) (later : Numeral base text digits) :
      Numeral base (c :: '_' :: text) (n :: digits)

def number (base : Nat) (digits : List Nat) : Nat :=
  Nat.ofDigits base digits.reverse

inductive Sign : Chars → Bool → Prop
  | none : Sign [] false
  | plus : Sign ['+'] false
  | minus : Sign ['-'] true

inductive Marked : Char → Nat → Prop
  | hexadecimal : Marked 'x' 16
  | octal : Marked 'o' 8
  | binary : Marked 'b' 2

/-- The ways to write an integer. Without a mark only zero itself begins with a zero. -/
inductive WritesInteger : Int → Chars → Prop
  | decimal {sign text : Chars} {negative : Bool} {digits : List Nat} (signs : Sign sign negative)
      (numeral : Numeral 10 text digits) (plain : digits.head? = some 0 → text = ['0']) :
      WritesInteger (if negative then -(number 10 digits : Int) else number 10 digits)
        (sign ++ text)
  | based {mark : Char} {base : Nat} {text : Chars} {digits : List Nat} (marked : Marked mark base)
      (numeral : Numeral base text digits) :
      WritesInteger (number base digits) ('0' :: mark :: text)

/-- The characters that may follow a value: blanks, those of line ends, and those that
begin a comment or go on with an array. -/
def delimiters : Chars :=
  [' ', '\t', '\n', '\r', '#', ',', ']']

def Delimited (rest : Chars) : Prop :=
  ∀ c, rest.head? = some c → c ∈ delimiters

/-! ## Digits -/

theorem hexValue?_digit {c : Char} {n : Nat} (digit : (c, n) ∈ digitTable) :
    hexValue? c = some n := by
  have table : ∀ entry ∈ digitTable, hexValue? entry.1 = some entry.2 := by decide
  exact table (c, n) digit

theorem isDigitOf_digit {base n : Nat} {c : Char} (digit : (c, n) ∈ digitTable)
    (small : n < base) : isDigitOf base c = true := by
  simp [isDigitOf, hexValue?_digit digit, small]

theorem each {cs : Chars} {holds : Char → Prop} [DecidablePred holds]
    (checked : cs.all (fun c => holds c) = true) : ∀ c ∈ cs, holds c := by
  simpa using checked

theorem Delimited.hexValue? {c : Char} {rest : Chars} (delimited : Delimited (c :: rest)) :
    hexValue? c = none := by
  have listed := delimited c rfl
  have noneListed : ∀ c ∈ delimiters, Document.hexValue? c = none :=
    each (by decide)
  exact noneListed c listed

theorem Delimited.not_digit {base : Nat} {c : Char} {rest : Chars}
    (delimited : Delimited (c :: rest)) : isDigitOf base c = false := by
  simp [isDigitOf, delimited.hexValue?]

theorem Delimited.ne {c other : Char} {rest : Chars} (delimited : Delimited (c :: rest))
    (unlisted : other ∉ delimiters) : c ≠ other := by
  rintro rfl
  exact unlisted (delimited c rfl)

theorem moreDigits?_delimited (base : Nat) {rest : Chars} (delimited : Delimited rest) :
    moreDigits? base rest = some ([], rest) := by
  cases rest with
  | nil => rfl
  | cons c later =>
      have other : c ≠ '_' := delimited.ne (by decide)
      unfold moreDigits?
      split
      · contradiction
      · next same => exact absurd (List.cons.inj same).1 other
      · next same =>
          obtain ⟨rfl, rfl⟩ := List.cons.inj same
          simp [delimited.not_digit, other]

theorem moreDigits?_digit {base : Nat} {c : Char} (digit : isDigitOf base c = true) (cs : Chars) :
    moreDigits? base (c :: cs) = digits? base (c :: cs) := by
  have other : c ≠ '_' := by
    rintro rfl
    simp [isDigitOf, hexValue?] at digit
  simp [moreDigits?, digits?, digit, other]

theorem moreDigits?_spaced {base : Nat} {c : Char} (digit : isDigitOf base c = true) (cs : Chars) :
    moreDigits? base ('_' :: c :: cs) = digits? base (c :: cs) := by
  simp [moreDigits?, digits?, digit]

theorem Numeral.begins {base : Nat} {text : Chars} {digits : List Nat}
    (numeral : Numeral base text digits) :
    ∃ c n more later, text = c :: more ∧ digits = n :: later ∧ (c, n) ∈ digitTable ∧ n < base := by
  cases numeral with
  | last digit small => exact ⟨_, _, _, _, rfl, rfl, digit, small⟩
  | next digit small later => exact ⟨_, _, _, _, rfl, rfl, digit, small⟩
  | spaced digit small later => exact ⟨_, _, _, _, rfl, rfl, digit, small⟩

def worth (c : Char) : Nat :=
  (hexValue? c).getD 0

theorem digits?_numeral {base : Nat} {text rest : Chars} {digits : List Nat}
    (numeral : Numeral base text digits) (delimited : Delimited rest) :
    ∃ found, digits? base (text ++ rest) = some (found, rest) ∧ found.map worth = digits := by
  induction numeral with
  | @last c n digit small =>
      refine ⟨[c], ?_, by simp [worth, hexValue?_digit digit]⟩
      simp [digits?, isDigitOf_digit digit small, moreDigits?_delimited base delimited]
  | @next c n text digits digit small later ih =>
      obtain ⟨found, read, worths⟩ := ih
      obtain ⟨d, m, more, _, rfl, rfl, nextDigit, nextSmall⟩ := later.begins
      refine ⟨c :: found, ?_, by simp [worth, hexValue?_digit digit, ← worths]⟩
      rw [List.cons_append, List.cons_append, digits?, if_pos (isDigitOf_digit digit small),
        moreDigits?_digit (isDigitOf_digit nextDigit nextSmall), ← List.cons_append, read]
      rfl
  | @spaced c n text digits digit small later ih =>
      obtain ⟨found, read, worths⟩ := ih
      obtain ⟨d, m, more, _, rfl, rfl, nextDigit, nextSmall⟩ := later.begins
      refine ⟨c :: found, ?_, by simp [worth, hexValue?_digit digit, ← worths]⟩
      rw [List.cons_append, List.cons_append, List.cons_append, digits?,
        if_pos (isDigitOf_digit digit small),
        moreDigits?_spaced (isDigitOf_digit nextDigit nextSmall), ← List.cons_append, read]
      rfl

theorem number_eq_foldl (base : Nat) (digits : List Nat) :
    number base digits = digits.foldl (fun total digit => total * base + digit) 0 := by
  have step : (fun total digit => total * base + digit) =
      fun total digit => digit + base * total := by
    funext total digit
    rw [Nat.mul_comm, Nat.add_comm]
  rw [number, Nat.ofDigits_eq_foldr, List.foldr_reverse, step]
  rfl

theorem valueOf_worths (base : Nat) (found : Chars) :
    valueOf base found = number base (found.map worth) := by
  rw [valueOf_eq, number_eq_foldl, List.foldl_map]
  rfl

/-! ## Neither a date nor a time -/

theorem fixed?_digits {count : Nat} {cs after : Chars} {value : Nat}
    (found : fixed? count cs = some (value, after)) :
    after = cs.drop count ∧ ∀ index < count, ∃ c, cs[index]? = some c ∧ isDigitOf 10 c = true := by
  simp only [fixed?] at found
  split at found
  · next digits =>
      cases found
      constructor
      · rfl
      · intro index inside
        have taken : index < (cs.take count).length := by omega
        refine ⟨(cs.take count)[index], ?_, ?_⟩
        · rw [← List.getElem?_eq_getElem taken, List.getElem?_take, if_pos inside]
        · exact List.all_eq_true.mp digits.2 _ (List.getElem_mem taken)
  · cases found

/-- A mark that cannot end a value does not stand behind digits that begin with a value. -/
theorem sign?_after_fixed {mark : Char} {text rest after : Chars} {count value : Nat}
    (mute : mark ∉ text) (delimited : Delimited rest)
    (unlisted : mark ∉ delimiters)
    (found : fixed? count (text ++ rest) = some (value, after)) : sign? mark after = none := by
  obtain ⟨rfl, digits⟩ := fixed?_digits found
  have absent : ((text ++ rest).drop count).head? ≠ some mark := by
    rw [List.head?_drop]
    intro marked
    rcases Nat.lt_trichotomy count text.length with inside | atEnd | behind
    · rw [List.getElem?_append_left inside] at marked
      exact mute (List.mem_of_getElem? marked)
    · rw [List.getElem?_append_right (Nat.le_of_eq atEnd.symm), atEnd, Nat.sub_self,
        ← List.head?_eq_getElem?] at marked
      exact unlisted (delimited mark marked)
    · -- The value is too short, so what delimits it would be a digit.
      obtain ⟨c, first, digit⟩ := digits text.length behind
      rw [List.getElem?_append_right (Nat.le_refl _), Nat.sub_self] at first
      cases rest with
      | nil => cases first
      | cons d later =>
          cases first
          simp [delimited.not_digit] at digit
  cases behind : (text ++ rest).drop count with
  | nil => rfl
  | cons first later =>
      have other : first ≠ mark := by simpa [behind] using absent
      simp [sign?, other]

theorem moment?_mute {text rest : Chars} (dashless : '-' ∉ text) (colonless : ':' ∉ text)
    (delimited : Delimited rest) : moment? (text ++ rest) = none := by
  have dateless : date? (text ++ rest) = none := by
    unfold date?
    cases found : fixed? 4 (text ++ rest) with
    | none => rfl
    | some year =>
        simp [sign?_after_fixed dashless delimited (by decide) found]
  have timeless : time? (text ++ rest) = none := by
    unfold time? within?
    cases found : fixed? 2 (text ++ rest) with
    | none => rfl
    | some hour =>
        by_cases fits : hour.1 ≤ 23
        · simp [fits, sign?_after_fixed colonless delimited (by decide) found]
        · simp [fits]
  simp [moment?, dateless, timeless]

theorem moment?_minus (cs : Chars) : moment? ('-' :: cs) = none := by
  have unread (count : Nat) (someDigits : 0 < count) : fixed? count ('-' :: cs) = none := by
    cases found : fixed? count ('-' :: cs) with
    | none => rfl
    | some read =>
        obtain ⟨_, digits⟩ := fixed?_digits found
        obtain ⟨c, first, digit⟩ := digits 0 someDigits
        cases first
        simp [isDigitOf, hexValue?] at digit
  simp [moment?, date?, time?, within?, unread]

theorem Numeral.mem {base : Nat} {text : Chars} {digits : List Nat}
    (numeral : Numeral base text digits) {c : Char} (member : c ∈ text) :
    c = '_' ∨ isDigitOf base c = true := by
  induction numeral with
  | last digit small =>
      obtain rfl := List.mem_singleton.mp member
      exact .inr (isDigitOf_digit digit small)
  | next digit small later ih =>
      rcases List.mem_cons.mp member with rfl | more
      · exact .inr (isDigitOf_digit digit small)
      · exact ih more
  | spaced digit small later ih =>
      rcases List.mem_cons.mp member with rfl | more
      · exact .inr (isDigitOf_digit digit small)
      · rcases List.mem_cons.mp more with rfl | more
        · exact .inl rfl
        · exact ih more

theorem Numeral.lacks {base : Nat} {text : Chars} {digits : List Nat}
    (numeral : Numeral base text digits) {c : Char} (worthless : hexValue? c = none)
    (other : c ≠ '_') : c ∉ text := by
  intro member
  rcases numeral.mem member with same | digit
  · exact other same
  · simp [isDigitOf, worthless] at digit

/-! ## Integers -/

theorem isDigitOf_ne {base : Nat} {c other : Char} (digit : isDigitOf base c = true)
    (noDigit : isDigitOf base other = false) : c ≠ other := by
  rintro rfl
  exact Bool.false_ne_true (noDigit.symm.trans digit)

theorem takeSign_sign {sign : Chars} {negative : Bool} (signs : Sign sign negative) {c : Char}
    (digit : isDigitOf 10 c = true) (cs : Chars) :
    takeSign (sign ++ c :: cs) = (negative, c :: cs) := by
  cases signs with
  | none =>
      have noPlus : c ≠ '+' := isDigitOf_ne digit (by decide)
      have noMinus : c ≠ '-' := isDigitOf_ne digit (by decide)
      simp [takeSign, noPlus, noMinus]
  | plus => rfl
  | minus => rfl

theorem special?_digit (negative : Bool) {c : Char} (digit : isDigitOf 10 c = true) (cs : Chars) :
    special? negative (c :: cs) = none := by
  have noI : c ≠ 'i' := isDigitOf_ne digit (by decide)
  have noN : c ≠ 'n' := isDigitOf_ne digit (by decide)
  simp [special?, noI, noN]

theorem Delimited.whole {rest : Chars} (delimited : Delimited rest) :
    fraction? rest = some ([], rest) ∧ exponent? rest = some (0, rest) ∧
      marksFloat rest = false := by
  cases rest with
  | nil => exact ⟨rfl, rfl, rfl⟩
  | cons c later =>
      have noPoint : c ≠ '.' := delimited.ne (by decide)
      have noLower : c ≠ 'e' := delimited.ne (by decide)
      have noUpper : c ≠ 'E' := delimited.ne (by decide)
      simp [fraction?, exponent?, marksFloat, noPoint, noLower, noUpper]

theorem Numeral.alone {c : Char} {more : Chars} {digits : List Nat}
    (numeral : Numeral 10 (c :: more) digits) (plain : digits.head? = some 0 → c :: more = ['0'])
    (zero : c = '0') : more = [] ∧ digits = [0] := by
  obtain ⟨d, n, _, later, same, rfl, digit, _⟩ := numeral.begins
  obtain ⟨rfl, rfl⟩ := List.cons.inj same
  have value := hexValue?_digit digit
  rw [zero] at value
  obtain rfl : 0 = n := Option.some.inj value
  obtain ⟨rfl, rfl⟩ := List.cons.inj (plain rfl)
  cases numeral with
  | last => exact ⟨rfl, rfl⟩
  | next _ _ nothing => cases nothing

theorem wholeDigits?_numeral {text rest : Chars} {digits : List Nat}
    (numeral : Numeral 10 text digits) (plain : digits.head? = some 0 → text = ['0'])
    (delimited : Delimited rest) :
    ∃ found, wholeDigits? (text ++ rest) = some (found, rest) ∧ found.map worth = digits := by
  obtain ⟨found, read, worths⟩ := digits?_numeral numeral delimited
  obtain ⟨c, _, more, _, rfl, _⟩ := numeral.begins
  by_cases zero : c = '0'
  · obtain ⟨rfl, rfl⟩ := numeral.alone plain zero
    subst zero
    exact ⟨['0'], rfl, rfl⟩
  · refine ⟨found, ?_, worths⟩
    rw [List.cons_append] at read ⊢
    simp [wholeDigits?, zero, read]

theorem integer?_fits {value : Int} (fits : minInteger ≤ value ∧ value ≤ maxInteger) :
    integer? value = some (.integer value) := by
  rw [integer?, if_pos fits]

theorem number?_unmarked {cs : Chars}
    (unmarked : ∀ mark base more, Marked mark base → cs ≠ '0' :: mark :: more) :
    number? cs = (special? (takeSign cs).1 (takeSign cs).2 <|>
      decimal? (takeSign cs).1 (takeSign cs).2) := by
  unfold number?
  split
  · next more => exact absurd rfl (unmarked 'x' 16 more .hexadecimal)
  · next more => exact absurd rfl (unmarked 'o' 8 more .octal)
  · next more => exact absurd rfl (unmarked 'b' 2 more .binary)
  · rfl

/-- A decimal text is not taken for one whose base is marked. -/
theorem decimal_unmarked {sign text rest : Chars} {negative : Bool} {digits : List Nat}
    (signs : Sign sign negative) (numeral : Numeral 10 text digits)
    (plain : digits.head? = some 0 → text = ['0']) (delimited : Delimited rest) {mark : Char}
    {base : Nat} (marked : Marked mark base) (more : Chars) :
    sign ++ text ++ rest ≠ '0' :: mark :: more := by
  obtain ⟨c, _, later, _, rfl, _⟩ := numeral.begins
  cases signs with
  | plus => simp
  | minus => simp
  | none =>
      intro same
      obtain ⟨zero, same⟩ := List.cons.inj same
      obtain ⟨rfl, _⟩ := numeral.alone plain zero
      obtain rfl : rest = mark :: more := same
      have listed := delimited mark rfl
      cases marked <;> revert listed <;> decide

theorem decimal?_numeral (negative : Bool) {text rest : Chars} {digits : List Nat}
    (numeral : Numeral 10 text digits) (plain : digits.head? = some 0 → text = ['0'])
    (delimited : Delimited rest) {value : Int}
    (valueEq : value = signed negative (number 10 digits))
    (fits : minInteger ≤ value ∧ value ≤ maxInteger) :
    decimal? negative (text ++ rest) = some (.integer value, rest) := by
  obtain ⟨found, read, worths⟩ := wholeDigits?_numeral numeral plain delimited
  obtain ⟨noFraction, noExponent, noFloat⟩ := delimited.whole
  have whole : signed negative (valueOf 10 found) = value := by
    rw [valueOf_worths, worths, valueEq]
  simp [decimal?, read, noFraction, noExponent, noFloat, whole, integer?_fits fits]

theorem number?_written {value : Int} {text rest : Chars} (written : WritesInteger value text)
    (fits : minInteger ≤ value ∧ value ≤ maxInteger) (delimited : Delimited rest) :
    number? (text ++ rest) = some (.integer value, rest) := by
  cases written with
  | @based mark base text digits marked numeral =>
      obtain ⟨found, read, worths⟩ := digits?_numeral numeral delimited
      have based : based? base (text ++ rest) = some (.integer (number base digits), rest) := by
        simp [based?, read, valueOf_worths, worths, integer?_fits fits]
      cases marked <;> exact based
  | @decimal sign text negative digits signs numeral plain =>
      rw [number?_unmarked fun mark base more marked =>
        decimal_unmarked signs numeral plain delimited marked more]
      have valueEq : (if negative then -(number 10 digits : Int) else number 10 digits) =
          signed negative (number 10 digits) := rfl
      have read := decimal?_numeral negative numeral plain delimited valueEq fits
      obtain ⟨c, n, more, _, rfl, _, digit, small⟩ := numeral.begins
      have digit := isDigitOf_digit digit small
      rw [List.append_assoc, List.cons_append, takeSign_sign signs digit,
        special?_digit negative digit, ← List.cons_append, read]
      rfl

theorem WritesInteger.begins {value : Int} {text : Chars} (written : WritesInteger value text) :
    ∃ c more, text = c :: more ∧ (c = '+' ∨ c = '-' ∨ isDigitOf 10 c = true) := by
  cases written with
  | based => exact ⟨_, _, rfl, .inr (.inr (by decide))⟩
  | decimal signs numeral plain =>
      obtain ⟨c, n, more, _, rfl, _, digit, small⟩ := numeral.begins
      cases signs with
      | none => exact ⟨c, more, rfl, .inr (.inr (isDigitOf_digit digit small))⟩
      | plus => exact ⟨'+', _, rfl, .inl rfl⟩
      | minus => exact ⟨'-', _, rfl, .inr (.inl rfl)⟩

theorem moment?_written {value : Int} {text rest : Chars} (written : WritesInteger value text)
    (delimited : Delimited rest) : moment? (text ++ rest) = none := by
  cases written with
  | based marked numeral =>
      apply moment?_mute _ _ delimited
      · have lacks := numeral.lacks (c := '-') (by decide) (by decide)
        cases marked <;> simp [lacks]
      · have lacks := numeral.lacks (c := ':') (by decide) (by decide)
        cases marked <;> simp [lacks]
  | decimal signs numeral plain =>
      have dashless := numeral.lacks (c := '-') (by decide) (by decide)
      have colonless := numeral.lacks (c := ':') (by decide) (by decide)
      cases signs with
      | none => exact moment?_mute dashless colonless delimited
      | plus => exact moment?_mute (by simp [dashless]) (by simp [colonless]) delimited
      | minus => exact moment?_minus _

end PacketRelay.Document
