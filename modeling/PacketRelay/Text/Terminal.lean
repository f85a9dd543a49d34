/-!
Characters that a terminal acts on instead of showing them. In a log they are
made visible; in a report of misuse they are taken out, with the control
sequences they begin.
-/

namespace PacketRelay.Text.Terminal

/-! ## Made visible -/

/-- The controls that can steer a terminal. Others are harmless and stay. -/
def visible (c : Char) : List Char :=
  match c.toNat with
  | 0x07 => ['\\', 'x', '0', '7']
  | 0x08 => ['\\', 'x', '0', '8']
  | 0x0c => ['\\', 'x', '0', 'c']
  | 0x1b => ['\\', 'x', '1', 'b']
  | 0x7f => ['\\', 'x', '7', 'f']
  | code =>
      if 0x80 ≤ code ∧ code ≤ 0x9f then
        ['\\', 'u', '\x7b'] ++ Nat.toDigits 16 code ++ ['\x7d']
      else [c]

def shown (text : String) : String :=
  String.ofList (text.toList.flatMap visible)

/-! ## Taken out -/

inductive Stage where
  | ground
  | escape
  | escapeMiddle
  /-- A control sequence proper, up to its final letter. -/
  | control
  /-- A device control string has a head before its data. -/
  | deviceEntry
  | deviceParameter
  | deviceMiddle
  | deviceData
  /-- An operating system command. It may end with a bell. -/
  | command
  /-- Any other string for the terminal. -/
  | message
  deriving DecidableEq, Repr

def between (first last : Nat) (c : Char) : Bool :=
  first ≤ c.toNat && c.toNat ≤ last

def isGraphic (c : Char) : Bool :=
  between 0x20 0x7e c || 0x80 ≤ c.toNat

/-- The blanks among the controls. They are kept wherever controls are acted on. -/
def isLayout (c : Char) : Bool :=
  c = '\t' || c = '\n' || c = '\x0c' || c = '\r'

def endsString (c : Char) : Bool :=
  c.toString.toUTF8.toList.contains 0x9c

def afterEscape (c : Char) : Stage :=
  if c = '[' then .control
  else if c = ']' then .command
  else if c = 'P' then .deviceEntry
  else if c = 'X' ∨ c = '^' ∨ c = '_' then .message
  else if between 0x20 0x2f c then .escapeMiddle
  else if between 0x30 0x7e c then .ground
  else .escape

def Stage.next (stage : Stage) (c : Char) : Stage :=
  if c = '\x1b' then .escape
  else if c = '\x18' ∨ c = '\x1a' then .ground
  else
    match stage with
    | .ground => .ground
    | .escape => afterEscape c
    | .escapeMiddle => if between 0x30 0x7e c then .ground else .escapeMiddle
    | .control => if between 0x40 0x7e c then .ground else .control
    | .deviceEntry =>
        if between 0x20 0x2f c then .deviceMiddle
        else if between 0x30 0x3f c then .deviceParameter
        else if between 0x40 0x7e c then .deviceData
        else .deviceEntry
    | .deviceParameter =>
        if between 0x20 0x2f c then .deviceMiddle
        else if between 0x3c 0x7e c then .deviceData
        else .deviceParameter
    | .deviceMiddle => if between 0x30 0x7e c then .deviceData else .deviceMiddle
    | .deviceData => if endsString c then .ground else .deviceData
    | .command => if c = '\x07' then .ground else .command
    | .message => if endsString c then .ground else .message

def Stage.keeps (stage : Stage) (c : Char) : Bool :=
  match stage with
  | .ground => isGraphic c || isLayout c
  | .escape | .escapeMiddle | .control => isLayout c
  | _ => false

structure Reading where
  stage : Stage := .ground
  /-- Text is being shown, up to the next control. A blank that breaks into a sequence starts
  it again, though the sequence is not finished. -/
  showing : Bool := false
  /-- What is kept, the last character first. -/
  kept : List Char := []

def Reading.step (reading : Reading) (c : Char) : Reading :=
  if reading.showing && Stage.ground.keeps c then
    { reading with
      stage := if 0x80 ≤ c.toNat then .ground else reading.stage
      kept := c :: reading.kept }
  else if reading.stage.keeps c then
    { stage := reading.stage, showing := true, kept := c :: reading.kept }
  else { reading with stage := reading.stage.next c, showing := false }

/-- A text without control characters and sequences. One that is not finished goes to the end. -/
def plain (text : String) : String :=
  String.ofList (text.toList.foldl Reading.step {}).kept.reverse

end PacketRelay.Text.Terminal
