import PacketRelay.Log.Nesting
import PacketRelay.Text.Blank
import PacketRelay.Text.Letter

/-!
Patterns that the values of fields may be asked to match. Only whether a pattern
can be read matters here: no notice has a value that is compared with one.

The classes of letters, digits and blanks are known for single bytes only, and
so is what differs in case. What needs them beyond single bytes cannot be read.
Nor can what would match a part of a character, or a pattern whose parts lie too
deep in one another.
-/

namespace PacketRelay.Log.Pattern

open Text (isBlank isLetter isNumeral)

inductive Fault where
  | unreadable
  /-- A word boundary of all scripts can be read, but not be looked for. -/
  | wordBoundary
  deriving DecidableEq, Repr

def Fault.message : Fault → String
  | .unreadable => "error building NFA"
  | .wordBoundary =>
      "unsupported regex feature for DFAs: cannot build DFAs for regexes with Unicode word " ++
        "boundaries; switch to ASCII word boundaries, or heuristically enable Unicode word " ++
        "boundaries or use a different regex engine"

structure Mode where
  /-- What is matched are characters, not bytes. -/
  characters : Bool := true
  ignoresCase : Bool := false
  /-- Blanks and comments in the pattern say nothing. -/
  ignoresBlanks : Bool := false
  deriving DecidableEq, Repr

namespace Mode

def set (mode : Mode) (value : Bool) : Char → Mode
  | 'u' => { mode with characters := value }
  | 'i' => { mode with ignoresCase := value }
  | 'x' => { mode with ignoresBlanks := value }
  | _ => mode

def setAll (mode : Mode) (flags : List Char) : Mode :=
  let on := flags.takeWhile (· ≠ '-')
  let off := flags.drop on.length
  off.foldl (·.set false) (on.foldl (·.set true) mode)

end Mode

def skipFrom : Bool → List Char → List Char
  | _, [] => []
  | true, c :: rest => skipFrom (c ≠ '\n') rest
  | false, c :: rest =>
      if isBlank c then skipFrom false rest
      else if c = '#' then skipFrom true rest
      else c :: rest

def skip (mode : Mode) (cs : List Char) : List Char :=
  if mode.ignoresBlanks then skipFrom false cs else cs

/-! ## What stands for one character or place -/

inductive Atom where
  /-- `byte` if it is given by two hexadecimal digits. -/
  | character (code : Nat) (byte : Bool)
  /-- One of the classes named by a letter. -/
  | named (negated : Bool)
  /-- The start or the end of the text. -/
  | edge
  | wordEdge
  deriving DecidableEq, Repr

def hexDigit? (c : Char) : Option Nat :=
  if c.isDigit then some (c.toNat - '0'.toNat)
  else if 'a' ≤ c ∧ c ≤ 'f' then some (c.toNat - 'a'.toNat + 10)
  else if 'A' ≤ c ∧ c ≤ 'F' then some (c.toNat - 'A'.toNat + 10)
  else none

def hex? (mode : Mode) : Nat → Nat → List Char → Option (Nat × List Char)
  | 0, code, cs => if code.isValidChar then some (code, cs) else none
  | count + 1, code, cs =>
      match skip mode cs with
      | [] => none
      | c :: rest => (hexDigit? c).bind fun digit => hex? mode count (code * 16 + digit) rest

def isSign (c : Char) : Bool :=
  c.toNat < 128 && !c.isAlphanum && c ≠ '<' && c ≠ '>'

def escape? (mode : Mode) : List Char → Option (Atom × List Char)
  | [] => none
  | c :: rest =>
      if isSign c then some (.character c.toNat false, rest)
      else
        match c with
        | 'x' => (hex? mode 2 0 rest).map fun (code, rest) => (.character code true, rest)
        | 'u' => (hex? mode 4 0 rest).map fun (code, rest) => (.character code false, rest)
        | 'U' => (hex? mode 8 0 rest).map fun (code, rest) => (.character code false, rest)
        | 'd' | 's' | 'w' => some (.named false, rest)
        | 'D' | 'S' | 'W' => some (.named true, rest)
        | 'a' => some (.character 7 false, rest)
        | 't' => some (.character 9 false, rest)
        | 'n' => some (.character 10 false, rest)
        | 'v' => some (.character 11 false, rest)
        | 'f' => some (.character 12 false, rest)
        | 'r' => some (.character 13 false, rest)
        | 'A' | 'z' => some (.edge, rest)
        | 'b' | 'B' | '<' | '>' => some (.wordEdge, rest)
        | _ => none

/-- Whether the classes named by a letter, or by a word in a bracket, can be had. -/
def allowsNamed (mode : Mode) (negated : Bool) : Bool :=
  !mode.characters && !negated

def allows (mode : Mode) : Atom → Bool
  | .character code byte =>
      if mode.characters then !mode.ignoresCase else !byte || code < 128
  | .named negated => allowsNamed mode negated
  | .edge | .wordEdge => true

/-! ## Bracketed classes -/

def wordClasses : List String :=
  ["alnum", "alpha", "ascii", "blank", "cntrl", "digit", "graph", "lower", "print", "punct",
    "space", "upper", "word", "xdigit"]

/-- A class named by a word between colons, after its bracket: whether it is negated, and what
follows it. -/
def wordClass? : List Char → Option (Bool × List Char)
  | ':' :: cs =>
      let (negated, cs) := match cs with
        | '^' :: rest => (true, rest)
        | _ => (false, cs)
      let word := cs.takeWhile (· ≠ ':')
      match cs.drop word.length with
      | ':' :: ']' :: rest =>
          if wordClasses.contains (String.ofList word) then some (negated, rest) else none
      | _ => none
  | _ => none

def allowsWord (mode : Mode) (negated : Bool) : Bool :=
  if mode.characters then !mode.ignoresCase else !negated

def allowsMember (mode : Mode) (code : Nat) : Bool :=
  if mode.characters then !mode.ignoresCase else code < 128

inductive Spot where
  | first
  | dashes
  | inside
  deriving DecidableEq, Repr

def inClass? (mode : Mode) (cs : List Char) : Option (List Char) :=
  match skip mode cs with
  | '^' :: rest => if mode.characters then some rest else none
  | rest => some rest

def member? (mode : Mode) : List Char → Option (Atom × List Char)
  | [] => none
  | '\\' :: rest => escape? mode rest
  | c :: rest => some (.character c.toNat false, rest)

def afterMember? (mode : Mode) (cs : List Char) : Option (List Char) := do
  let (first, rest) ← member? mode cs
  let alone : Option (List Char) :=
    match first with
    | .character code _ => if allowsMember mode code then some rest else none
    | .named negated => if allowsNamed mode negated then some rest else none
    | .edge | .wordEdge => none
  match skip mode rest with
  | '-' :: more =>
      match skip mode more with
      | ']' :: _ | '-' :: _ => alone
      | more =>
          match first, ← member? mode more with
          | .character low _, (.character high _, rest) =>
              if low ≤ high ∧ allowsMember mode low ∧ allowsMember mode high then some rest
              else none
          | _, _ => none
  | _ => alone

/-- Reads on in a class inside others, innermost first, and gives how deep the outermost is and
what follows it. The fuel is never used up if it is as much as there are characters. -/
def afterClass? (mode : Mode) :
    Nat → List Operands → Operands → Spot → List Char → Option (Nat × List Char)
  | 0, _, _, _, _ => none
  | fuel + 1, outside, operands, spot, cs =>
      match spot, skip mode cs with
      | .first, '-' :: rest | .dashes, '-' :: rest =>
          if allowsMember mode '-'.toNat then
            afterClass? mode fuel outside (operands.push 0) .dashes rest
          else none
      | .first, ']' :: rest =>
          if allowsMember mode ']'.toNat then
            afterClass? mode fuel outside (operands.push 0) .inside rest
          else none
      | _, ']' :: rest =>
          match outside with
          | [] => some (operands.depth + 1, rest)
          | outer :: outside =>
              afterClass? mode fuel outside (outer.push (operands.depth + 1)) .inside rest
      | _, '[' :: rest =>
          match wordClass? rest with
          | some (negated, rest) =>
              if allowsWord mode negated then
                afterClass? mode fuel outside (operands.push 0) .inside rest
              else none
          | none =>
              (inClass? mode rest).bind (afterClass? mode fuel (operands :: outside) {} .first)
      | _, '&' :: '&' :: rest | _, '-' :: '-' :: rest | _, '~' :: '~' :: rest =>
          afterClass? mode fuel outside operands.operator .inside rest
      | _, cs =>
          (afterMember? mode cs).bind (afterClass? mode fuel outside (operands.push 0) .inside)

/-! ## Groups -/

def isNameStart (c : Char) : Bool :=
  c = '_' || isLetter c

def isNamePart (c : Char) : Bool :=
  isLetter c || isNumeral c || ['_', '.', '[', ']'].contains c

def groupName? (cs : List Char) : Option (List Char × List Char) :=
  let name := cs.takeWhile (· ≠ '>')
  match name, cs.drop name.length with
  | first :: others, _ :: rest =>
      if isNameStart first && others.all isNamePart then some (name, rest) else none
  | _, _ => none

def isFlag (c : Char) : Bool :=
  ['i', 'm', 's', 'U', 'u', 'R', 'x', '-'].contains c

/-- The flags of a group, each at most once, and what ends them. -/
def flags? (cs : List Char) : Option (List Char × Char × List Char) :=
  let flags := cs.takeWhile fun c => c ≠ ':' ∧ c ≠ ')'
  match cs.drop flags.length with
  | [] => none
  | mark :: rest =>
      if flags.all isFlag && decide flags.Nodup && flags.getLast? != some '-' then
        some (flags, mark, rest)
      else none

structure Scope where
  mode : Mode := {}
  branches : Branches := {}
  deriving Repr

structure Reading where
  scope : Scope := {}
  /-- The scopes around this one, innermost first. -/
  outside : List Scope := []
  /-- Whether there is something that a star can repeat. -/
  repeatable : Bool := false
  names : List (List Char) := []
  boundary : Bool := false
  deriving Repr

namespace Reading

def mode (reading : Reading) : Mode :=
  reading.scope.mode

def push (reading : Reading) (depth : Nat) : Reading :=
  { reading with scope.branches := reading.scope.branches.push depth, repeatable := true }

def openGroup (reading : Reading) (mode : Mode) : Reading :=
  { reading with
    scope := { mode }, outside := reading.scope :: reading.outside, repeatable := false }

def closeGroup (reading : Reading) (outer : Scope) (outside : List Scope) : Reading :=
  { reading with scope := outer, outside }.push (reading.scope.branches.depth + 1)

def setFlags (reading : Reading) (flags : List Char) : Reading :=
  { reading with
    scope := ⟨reading.mode.setAll flags, reading.scope.branches.push 0⟩, repeatable := false }

def named? (reading : Reading) (cs : List Char) : Option (Reading × List Char) :=
  (groupName? cs).bind fun (name, rest) =>
    if reading.names.contains name then none
    else some ({ reading.openGroup reading.mode with names := name :: reading.names }, rest)

def group? (reading : Reading) (cs : List Char) : Option (Reading × List Char) :=
  match skip reading.mode cs with
  | '?' :: '=' :: _ | '?' :: '!' :: _ | '?' :: '<' :: '=' :: _ | '?' :: '<' :: '!' :: _ => none
  | '?' :: 'P' :: '<' :: rest | '?' :: '<' :: rest => reading.named? rest
  | '?' :: rest =>
      match flags? rest with
      | some ([], ')', _) | none => none
      | some (flags, ')', rest) => some (reading.setFlags flags, rest)
      | some (flags, _, rest) => some (reading.openGroup (reading.mode.setAll flags), rest)
  | rest => some (reading.openGroup reading.mode, rest)

def atom? (reading : Reading) (atom : Atom) (rest : List Char) :
    Option (Reading × List Char) :=
  if allows reading.mode atom then
    let boundary := reading.boundary || (reading.mode.characters && atom = .wordEdge)
    some ({ reading.push 0 with boundary }, rest)
  else none

/-- Reads one item of a pattern. A count in braces is never finished in a filter. The fuel is
for classes. -/
def step? (fuel : Nat) (reading : Reading) (c : Char) (rest : List Char) :
    Option (Reading × List Char) :=
  match c with
  | '(' => reading.group? rest
  | ')' =>
      match reading.outside with
      | [] => none
      | outer :: outside => some (reading.closeGroup outer outside, rest)
  | '|' =>
      some ({ reading with
        scope.branches := reading.scope.branches.branch, repeatable := false }, rest)
  | '[' =>
      ((inClass? reading.mode rest).bind (afterClass? reading.mode fuel [] {} .first)).map
        fun (depth, rest) => (reading.push depth, rest)
  | '?' | '*' | '+' =>
      if reading.repeatable then
        some ({ reading with scope.branches := reading.scope.branches.deepen },
          match rest with | '?' :: rest => rest | _ => rest)
      else none
  | '\x7b' => none
  | '\\' => (escape? reading.mode rest).bind fun (atom, rest) => reading.atom? atom rest
  | '.' => if reading.mode.characters then reading.atom? .edge rest else none
  | '^' | '$' => reading.atom? .edge rest
  | c => reading.atom? (.character c.toNat false) rest

def toEnd? : Nat → Reading → List Char → Option Reading
  | 0, _, _ => none
  | fuel + 1, reading, cs =>
      match skip reading.mode cs with
      | [] => if reading.outside.isEmpty then some reading else none
      | c :: rest =>
          (step? fuel reading c rest).bind fun (reading, rest) => reading.toEnd? fuel rest

end Reading

def maxDepth : Nat := 250

def check (cs : List Char) : Except Fault Unit :=
  match Reading.toEnd? (cs.length + 1) {} cs with
  | none => .error .unreadable
  | some reading =>
      if reading.scope.branches.depth > maxDepth then .error .unreadable
      else if reading.boundary then .error .wordBoundary
      else .ok ()

end PacketRelay.Log.Pattern
