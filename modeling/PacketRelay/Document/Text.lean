import PacketRelay.Document.Layout

/-!
The quoted texts of a TOML document and its keys. A text in double quotes has
escapes, one in single quotes has none; three quotes let it run over lines.
-/

namespace PacketRelay.Document

def hexValue? (c : Char) : Option Nat :=
  if '0' ≤ c ∧ c ≤ '9' then some (c.toNat - '0'.toNat)
  else if 'a' ≤ c ∧ c ≤ 'f' then some (c.toNat - 'a'.toNat + 10)
  else if 'A' ≤ c ∧ c ≤ 'F' then some (c.toNat - 'A'.toNat + 10)
  else none

def hexNumber? (total : Nat) : Nat → Chars → Option (Nat × Chars)
  | 0, cs => some (total, cs)
  | _ + 1, [] => none
  | count + 1, c :: rest =>
      match hexValue? c with
      | none => none
      | some value => hexNumber? (total * 16 + value) count rest

/-- The character with this code, if there is one: codes of surrogates have none. -/
def scalar? (code : Nat) : Option Char :=
  if code.isValidChar then some (Char.ofNat code) else none

def codePoint? (digits : Nat) (cs : Chars) : Option (Char × Chars) :=
  match hexNumber? 0 digits cs with
  | none => none
  | some (code, rest) => (scalar? code).map fun c => (c, rest)

def escape? : Chars → Option (Char × Chars)
  | 'b' :: rest => some ('\x08', rest)
  | 't' :: rest => some ('\t', rest)
  | 'n' :: rest => some ('\n', rest)
  | 'f' :: rest => some ('\x0c', rest)
  | 'r' :: rest => some ('\r', rest)
  | '"' :: rest => some ('"', rest)
  | '\\' :: rest => some ('\\', rest)
  | 'u' :: rest => codePoint? 4 rest
  | 'U' :: rest => codePoint? 8 rest
  | _ => none

/-- A line end that a backslash hides, with all blanks and line ends after it. -/
def hiddenBreak? (cs : Chars) : Option Chars :=
  (newline? (skipBlanks cs)).map skipLines

theorem length_hexNumber? {total count value : Nat} {cs rest : Chars}
    (found : hexNumber? total count cs = some (value, rest)) : rest.length ≤ cs.length := by
  fun_induction hexNumber? total count cs <;> simp_all
  omega

theorem length_codePoint? {digits : Nat} {cs rest : Chars} {c : Char}
    (found : codePoint? digits cs = some (c, rest)) : rest.length ≤ cs.length := by
  unfold codePoint? at found
  split at found
  · simp at found
  · rename_i read
    have shorter := length_hexNumber? read
    simp only [Option.map_eq_some_iff, Prod.mk.injEq] at found
    obtain ⟨_, _, _, same⟩ := found
    exact same ▸ shorter

theorem length_escape? {cs rest : Chars} {c : Char} (found : escape? cs = some (c, rest)) :
    rest.length < cs.length := by
  unfold escape? at found
  split at found
  case h_8 => exact Nat.lt_succ_of_le (length_codePoint? found)
  case h_9 => exact Nat.lt_succ_of_le (length_codePoint? found)
  all_goals simp_all

theorem length_hiddenBreak? {cs rest : Chars} (found : hiddenBreak? cs = some rest) :
    rest.length < cs.length := by
  unfold hiddenBreak? at found
  cases broken : newline? (skipBlanks cs) with
  | none => simp [broken] at found
  | some after =>
      have first := length_newline? broken
      have second := length_skipBlanks cs
      simp only [broken, Option.map_some, Option.some.injEq] at found
      have third := length_skipLines after
      rw [found] at third
      omega

/-- A text in double quotes, from after the opening one. `seen` is reversed. -/
def basicText? (seen : Chars) : Chars → Option (String × Chars)
  | [] => none
  | '"' :: rest => some (String.ofList seen.reverse, rest)
  | '\\' :: rest =>
      match _ : escape? rest with
      | none => none
      | some (c, after) => basicText? (c :: seen) after
  | c :: rest => if isPlain c then basicText? (c :: seen) rest else none
termination_by cs => cs.length
decreasing_by
  · have shorter := length_escape? ‹escape? rest = _›
    simp only [List.length_cons]
    omega
  · simp

def literalText? (seen : Chars) : Chars → Option (String × Chars)
  | [] => none
  | '\'' :: rest => some (String.ofList seen.reverse, rest)
  | c :: rest => if isPlain c then literalText? (c :: seen) rest else none

-- Up to two quotes may stand before the three that close a text.
def closing (quote : Char) (cs : Chars) : Option (Nat × Chars) :=
  let count := (cs.takeWhile (· = quote)).length
  if count < 3 then none
  else some (min count 5 - 3, cs.drop (min count 5))

def basicLines? (seen : Chars) (cs : Chars) : Option (String × Chars) :=
  match cs with
  | [] => none
  | '"' :: rest =>
      match closing '"' ('"' :: rest) with
      | some (kept, after) => some (String.ofList (seen.reverse ++ List.replicate kept '"'), after)
      | none => basicLines? ('"' :: seen) rest
  | '\\' :: rest =>
      match _ : hiddenBreak? rest with
      | some after => basicLines? seen after
      | none =>
          match _ : escape? rest with
          | none => none
          | some (c, after) => basicLines? (c :: seen) after
  | '\n' :: rest => basicLines? ('\n' :: seen) rest
  | '\r' :: '\n' :: rest => basicLines? ('\n' :: seen) rest
  | c :: rest => if isPlain c then basicLines? (c :: seen) rest else none
termination_by cs.length
decreasing_by
  · simp
  · have shorter := length_hiddenBreak? ‹hiddenBreak? rest = _›
    simp only [List.length_cons]
    omega
  · have shorter := length_escape? ‹escape? rest = _›
    simp only [List.length_cons]
    omega
  · simp
  · simp only [List.length_cons]
    omega
  · simp

def literalLines? (seen : Chars) : Chars → Option (String × Chars)
  | [] => none
  | '\'' :: rest =>
      match closing '\'' ('\'' :: rest) with
      | some (kept, after) => some (String.ofList (seen.reverse ++ List.replicate kept '\''), after)
      | none => literalLines? ('\'' :: seen) rest
  | '\n' :: rest => literalLines? ('\n' :: seen) rest
  | '\r' :: '\n' :: rest => literalLines? ('\n' :: seen) rest
  | c :: rest => if isPlain c then literalLines? (c :: seen) rest else none

-- A line end right after the opening quotes is not part of the text.
def skipFirstNewline (cs : Chars) : Chars :=
  (newline? cs).getD cs

def text? : Chars → Option (String × Chars)
  | '"' :: '"' :: '"' :: rest => basicLines? [] (skipFirstNewline rest)
  | '\'' :: '\'' :: '\'' :: rest => literalLines? [] (skipFirstNewline rest)
  | '"' :: rest => basicText? [] rest
  | '\'' :: rest => literalText? [] rest
  | _ => none

/-! ## Keys -/

def isBare (c : Char) : Bool :=
  c.isAlphanum || c = '_' || c = '-'

def bareKey? (cs : Chars) : Option (String × Chars) :=
  match cs.takeWhile isBare with
  | [] => none
  | name => some (String.ofList name, cs.dropWhile isBare)

def simpleKey? : Chars → Option (String × Chars)
  | '"' :: rest => basicText? [] rest
  | '\'' :: rest => literalText? [] rest
  | cs => bareKey? cs

theorem length_basicText? {seen cs rest : Chars} {text : String}
    (found : basicText? seen cs = some (text, rest)) : rest.length < cs.length := by
  fun_induction basicText? seen cs with
  | case1 => simp at found
  | case2 => simp_all
  | case3 => simp at found
  | case4 seen rest c after read ih =>
      have shorter := length_escape? read
      have further := ih found
      simp only [List.length_cons]
      omega
  | case5 seen c rest _ _ _ ih =>
      have further := ih found
      simp only [List.length_cons]
      omega
  | case6 => simp at found

theorem length_literalText? {seen cs rest : Chars} {text : String}
    (found : literalText? seen cs = some (text, rest)) : rest.length < cs.length := by
  fun_induction literalText? seen cs with
  | case1 => simp at found
  | case2 => simp_all
  | case3 seen c rest _ _ ih =>
      have further := ih found
      simp only [List.length_cons]
      omega
  | case4 => simp at found

theorem length_bareKey? {cs rest : Chars} {name : String}
    (found : bareKey? cs = some (name, rest)) : rest.length < cs.length := by
  have whole : (cs.takeWhile isBare ++ cs.dropWhile isBare).length = cs.length := by
    rw [List.takeWhile_append_dropWhile]
  rw [List.length_append] at whole
  unfold bareKey? at found
  split at found
  · simp at found
  · rename_i nonempty
    have someName := List.length_pos_iff.mpr nonempty
    simp only [Option.some.injEq, Prod.mk.injEq] at found
    rw [← found.2]
    omega

theorem length_simpleKey? {cs rest : Chars} {name : String}
    (found : simpleKey? cs = some (name, rest)) : rest.length < cs.length := by
  unfold simpleKey? at found
  split at found
  · exact Nat.lt_succ_of_lt (length_basicText? found)
  · exact Nat.lt_succ_of_lt (length_literalText? found)
  · exact length_bareKey? found

def maxDepth : Nat := 80

def keyParts? (cs : Chars) : Option (List String × Chars) :=
  match _ : simpleKey? (skipBlanks cs) with
  | none => none
  | some (name, after) =>
      match _ : skipBlanks after with
      | '.' :: rest => (keyParts? rest).map fun (names, left) => (name :: names, left)
      | left => some ([name], left)
termination_by cs.length
decreasing_by
  have first := length_skipBlanks cs
  have second := length_simpleKey? ‹simpleKey? (skipBlanks cs) = _›
  have third := length_skipBlanks after
  have fourth : (skipBlanks after).length = rest.length + 1 := by
    rw [‹skipBlanks after = _›, List.length_cons]
  omega

def key? (cs : Chars) : Option (List String × Chars) :=
  match keyParts? cs with
  | some (names, rest) => if names.length < maxDepth then some (names, rest) else none
  | none => none

end PacketRelay.Document
