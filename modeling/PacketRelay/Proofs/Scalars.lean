import PacketRelay.Document.Reader
import PacketRelay.Proofs.Numerals

/-!
The texts, integers and truth values of a document as they may be written on a line,
and read back. Main statement: each of them is read as the value that it writes, with
whatever may follow a value left over.
-/

namespace PacketRelay.Document

def Plain (c : Char) : Prop :=
  c = '\t' ∨ 32 ≤ c.toNat ∧ c.toNat ≠ 127

def shortEscapes : List (Char × Char) :=
  [('b', '\x08'), ('t', '\t'), ('n', '\n'), ('f', '\x0c'), ('r', '\r'), ('"', '"'), ('\\', '\\')]

/-- The ways to write a character between double quotes: as it is, by the letter that stands
for it, or by the four or eight hexadecimal digits of its code. -/
inductive Spells : Char → Chars → Prop
  | plain {c : Char} (plain : Plain c) (unquoted : c ≠ '"') (unescaped : c ≠ '\\') : Spells c [c]
  | short {c letter : Char} (listed : (letter, c) ∈ shortEscapes) : Spells c ['\\', letter]
  | code {c mark : Char} {digits : List (Char × Nat)} (hexadecimal : ∀ d ∈ digits, d ∈ digitTable)
      (sized : (mark, digits.length) ∈ [('u', 4), ('U', 8)])
      (code : number 16 (digits.map (·.2)) = c.toNat) :
      Spells c ('\\' :: mark :: digits.map (·.1))

inductive SpellsAll : List Char → Chars → Prop
  | nil : SpellsAll [] []
  | cons {c : Char} {cs : List Char} {text more : Chars} (spells : Spells c text)
      (later : SpellsAll cs more) : SpellsAll (c :: cs) (text ++ more)

/-- The ways to write a text on one line: with escapes, or in single quotes without any. -/
inductive WritesText : String → Chars → Prop
  | basic {cs : List Char} {text : Chars} (spells : SpellsAll cs text) :
      WritesText (String.ofList cs) ('"' :: (text ++ ['"']))
  | literal {cs : List Char} (plain : ∀ c ∈ cs, Plain c ∧ c ≠ '\'') :
      WritesText (String.ofList cs) ('\'' :: (cs ++ ['\'']))

inductive WritesScalar : Value → Chars → Prop
  | text {value : String} {text : Chars} (written : WritesText value text) :
      WritesScalar (.text value) text
  | integer {value : Int} {text : Chars} (written : WritesInteger value text)
      (fits : -(2 ^ 63) ≤ value ∧ value < 2 ^ 63) : WritesScalar (.integer value) text
  | yes : WritesScalar (.boolean true) ['t', 'r', 'u', 'e']
  | no : WritesScalar (.boolean false) ['f', 'a', 'l', 's', 'e']

/-! ## Texts -/

theorem isPlain_iff (c : Char) : isPlain c = true ↔ Plain c := by
  simp [isPlain, Plain]

theorem hexNumber?_digits (digits : List (Char × Nat)) (hexadecimal : ∀ d ∈ digits, d ∈ digitTable)
    (total : Nat) (rest : Chars) :
    hexNumber? total digits.length (digits.map (·.1) ++ rest) =
      some ((digits.map (·.2)).foldl (fun total digit => total * 16 + digit) total, rest) := by
  induction digits generalizing total with
  | nil => rfl
  | cons digit later ih =>
      have worth := hexValue?_digit (hexadecimal digit List.mem_cons_self)
      have read := ih (fun d member => hexadecimal d (List.mem_cons_of_mem digit member))
        (total * 16 + digit.2)
      simpa [hexNumber?, worth] using read

theorem scalar?_toNat (c : Char) : scalar? c.toNat = some c := by
  have valid : c.toNat.isValidChar := c.valid
  rw [scalar?, if_pos valid, Char.ofNat_toNat]

theorem codePoint?_digits {c : Char} {digits : List (Char × Nat)}
    (hexadecimal : ∀ d ∈ digits, d ∈ digitTable) (code : number 16 (digits.map (·.2)) = c.toNat)
    (rest : Chars) : codePoint? digits.length (digits.map (·.1) ++ rest) = some (c, rest) := by
  rw [number_eq_foldl] at code
  simp [codePoint?, hexNumber?_digits digits hexadecimal, code, scalar?_toNat]

theorem basicText?_escape {seen rest after : Chars} {c : Char}
    (escaped : escape? rest = some (c, after)) :
    basicText? seen ('\\' :: rest) = basicText? (c :: seen) after := by
  rw [basicText?]
  split
  · next unread => simp [escaped] at unread
  · next read =>
      rw [escaped] at read
      cases read
      rfl

theorem basicText?_spells {c : Char} {text : Chars} (spells : Spells c text) (seen rest : Chars) :
    basicText? seen (text ++ rest) = basicText? (c :: seen) rest := by
  cases spells with
  | plain plain unquoted unescaped =>
      simp [basicText?, (isPlain_iff c).mpr plain]
  | @short letter listed =>
      have escaped : ∀ entry ∈ shortEscapes, escape? (entry.1 :: rest) = some (entry.2, rest) := by
        simp [shortEscapes, escape?]
      exact basicText?_escape (escaped (letter, c) listed)
  | @code mark digits hexadecimal sized code =>
      have read := codePoint?_digits hexadecimal code rest
      apply basicText?_escape
      have marked : mark = 'u' ∧ digits.length = 4 ∨ mark = 'U' ∧ digits.length = 8 := by
        simpa using sized
      rcases marked with ⟨rfl, four⟩ | ⟨rfl, eight⟩
      · rw [four] at read
        exact read
      · rw [eight] at read
        exact read

theorem basicText?_written {cs : List Char} {text : Chars} (spells : SpellsAll cs text)
    (seen rest : Chars) :
    basicText? seen (text ++ '"' :: rest) = some (String.ofList (seen.reverse ++ cs), rest) := by
  induction spells generalizing seen with
  | nil => simp [basicText?]
  | cons spelt later ih =>
      rw [List.append_assoc, basicText?_spells spelt, ih]
      simp

theorem literalText?_written {cs : List Char} (plain : ∀ c ∈ cs, Plain c ∧ c ≠ '\'')
    (seen rest : Chars) :
    literalText? seen (cs ++ '\'' :: rest) = some (String.ofList (seen.reverse ++ cs), rest) := by
  induction cs generalizing seen with
  | nil => simp [literalText?]
  | cons c later ih =>
      obtain ⟨self, quoteless⟩ := plain c List.mem_cons_self
      have read := ih (fun d member => plain d (List.mem_cons_of_mem c member)) (c :: seen)
      simpa [literalText?, quoteless, (isPlain_iff c).mpr self] using read

theorem Spells.begins {c : Char} {text : Chars} (spells : Spells c text) :
    ∃ first more, text = first :: more ∧ first ≠ '"' := by
  cases spells with
  | plain _ unquoted _ => exact ⟨c, [], rfl, unquoted⟩
  | short => exact ⟨'\\', _, rfl, by decide⟩
  | code => exact ⟨'\\', _, rfl, by decide⟩

theorem text?_basic {cs : Chars} (single : ∀ later, cs ≠ '"' :: '"' :: later) :
    text? ('"' :: cs) = basicText? [] cs := by
  unfold text?
  split
  · next later same => exact absurd (List.cons.inj same).2 (single later)
  · next same => cases same
  · next same =>
      cases same
      rfl
  · next same => cases same
  · next other _ => exact absurd rfl (other cs)

theorem text?_literal {cs : Chars} (single : ∀ later, cs ≠ '\'' :: '\'' :: later) :
    text? ('\'' :: cs) = literalText? [] cs := by
  unfold text?
  split
  · next same => cases same
  · next later same => exact absurd (List.cons.inj same).2 (single later)
  · next same => cases same
  · next same =>
      cases same
      rfl
  · next other => exact absurd rfl (other cs)

/-- A text on one line is not taken for the beginning of one over lines. -/
theorem text?_written {value : String} {text rest : Chars} (written : WritesText value text)
    (delimited : Delimited rest) : text? (text ++ rest) = some (value, rest) := by
  cases written with
  | @basic cs text spells =>
      have single : ∀ later, text ++ '"' :: rest ≠ '"' :: '"' :: later := by
        intro later same
        cases spells with
        | nil =>
            obtain rfl : rest = '"' :: later := (List.cons.inj same).2
            exact absurd (delimited '"' rfl) (by decide)
        | cons spelt _ =>
            obtain ⟨first, more, rfl, unquoted⟩ := spelt.begins
            exact unquoted (List.cons.inj same).1
      rw [List.cons_append, List.append_assoc, List.singleton_append, text?_basic single,
        basicText?_written spells]
      rfl
  | @literal cs plain =>
      have single : ∀ later, cs ++ '\'' :: rest ≠ '\'' :: '\'' :: later := by
        intro later same
        cases cs with
        | nil =>
            obtain rfl : rest = '\'' :: later := (List.cons.inj same).2
            exact absurd (delimited '\'' rfl) (by decide)
        | cons c more => exact (plain c List.mem_cons_self).2 (List.cons.inj same).1
      rw [List.cons_append, List.append_assoc, List.singleton_append, text?_literal single,
        literalText?_written plain]
      rfl

/-! ## Scalars -/

theorem keyword?_self (name : Chars) (value : Value) (rest : Chars) :
    keyword? name value (name ++ rest) = some (value, rest) := by
  have front : name.isPrefixOf (name ++ rest) = true :=
    List.isPrefixOf_iff_prefix.mpr (List.prefix_append name rest)
  rw [keyword?, if_pos front, List.drop_left]

theorem WritesText.begins {value : String} {text : Chars} (written : WritesText value text) :
    ∃ c more, text = c :: more ∧ (c = '"' ∨ c = '\'') := by
  cases written with
  | basic => exact ⟨'"', _, rfl, .inl rfl⟩
  | literal => exact ⟨'\'', _, rfl, .inr rfl⟩

theorem scalar??_written {value : Value} {text rest : Chars} (written : WritesScalar value text)
    (delimited : Delimited rest) : scalar?? (text ++ rest) = some (value, rest) := by
  cases written with
  | text written =>
      have read := text?_written written delimited
      obtain ⟨c, more, rfl, quote⟩ := written.begins
      rw [List.cons_append] at read ⊢
      simp [scalar??, quote, read]
  | @integer value text written fits =>
      have wide : minInteger ≤ value ∧ value ≤ maxInteger := by
        simp only [minInteger, maxInteger]
        omega
      have read := number?_written written wide delimited
      have timeless := moment?_written written delimited
      obtain ⟨c, more, rfl, first⟩ := written.begins
      have other : ∀ d ∈ ['"', '\'', 't', 'f'], c ≠ d := by
        rcases first with rfl | rfl | digit
        · exact each (by decide)
        · exact each (by decide)
        · have noDigits : ∀ d ∈ ['"', '\'', 't', 'f'], isDigitOf 10 d = false := each (by decide)
          exact fun d member => isDigitOf_ne digit (noDigits d member)
      rw [List.cons_append] at read timeless ⊢
      simp [scalar??, other, read, timeless]
  | yes => exact keyword?_self "true".toList (.boolean true) rest
  | no => exact keyword?_self "false".toList (.boolean false) rest

end PacketRelay.Document
