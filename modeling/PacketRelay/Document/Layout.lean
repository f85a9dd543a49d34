/-!
Blanks, line ends and comments of a TOML document. Each function gives what is
left of the text.
-/

namespace PacketRelay.Document

abbrev Chars := List Char

def isBlank (c : Char) : Bool :=
  c = ' ' || c = '\t'

def isPlain (c : Char) : Bool :=
  c = '\t' || (32 ≤ c.toNat && c.toNat ≠ 127)

def skipBlanks (cs : Chars) : Chars :=
  cs.dropWhile isBlank

def newline? : Chars → Option Chars
  | '\n' :: rest => some rest
  | '\r' :: '\n' :: rest => some rest
  | _ => none

def skipComment : Chars → Chars
  | '#' :: rest => rest.dropWhile isPlain
  | cs => cs

/-- What follows the rest of a line on which only a comment may still stand. -/
def endLine? (cs : Chars) : Option Chars :=
  match skipComment (skipBlanks cs) with
  | [] => some []
  | rest => newline? rest

def skipFiller (inComment : Bool) : Chars → Chars
  | [] => []
  | '\n' :: rest => skipFiller false rest
  | '\r' :: '\n' :: rest => skipFiller false rest
  | c :: rest =>
      if inComment && isPlain c then skipFiller true rest
      else if c = '#' then skipFiller true rest
      else if isBlank c then skipFiller false rest
      else c :: rest

def skipLines : Chars → Chars
  | [] => []
  | '\n' :: rest => skipLines rest
  | '\r' :: '\n' :: rest => skipLines rest
  | c :: rest => if isBlank c then skipLines rest else c :: rest

theorem length_dropWhile (keep : Char → Bool) (cs : Chars) :
    (cs.dropWhile keep).length ≤ cs.length :=
  (List.dropWhile_suffix keep).length_le

theorem length_skipBlanks (cs : Chars) : (skipBlanks cs).length ≤ cs.length :=
  length_dropWhile _ _

theorem length_skipLines (cs : Chars) : (skipLines cs).length ≤ cs.length := by
  fun_induction skipLines cs <;> simp only [List.length_cons, Nat.le_refl] <;> omega

theorem length_newline? {cs rest : Chars} (found : newline? cs = some rest) :
    rest.length < cs.length := by
  unfold newline? at found
  split at found <;> cases found <;> simp only [List.length_cons] <;> omega

end PacketRelay.Document
