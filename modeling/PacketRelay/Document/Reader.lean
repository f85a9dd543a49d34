import PacketRelay.Document.Assembly
import PacketRelay.Document.Moment

/-!
Values and lines of a TOML document.
-/

namespace PacketRelay.Document

def keyword? (name : Chars) (value : Value) (cs : Chars) : Option (Value × Chars) :=
  if name.isPrefixOf cs then some (value, cs.drop name.length) else none

def scalar?? (cs : Chars) : Option (Value × Chars) :=
  match cs with
  | [] => none
  | c :: _ =>
      if c = '"' ∨ c = '\'' then (text? cs).map fun (text, rest) => (.text text, rest)
      else if c = 't' then keyword? "true".toList (.boolean true) cs
      else if c = 'f' then keyword? "false".toList (.boolean false) cs
      else
        match moment? cs with
        | some rest => some (.moment, rest)
        | none => number? cs

abbrev ValueReader := Chars → Option (Value × Chars)

/-- The items of an array, from after its bracket or a comma. There is fuel for so many. -/
def items? (value : ValueReader) : Nat → Chars → Option (List Value × Chars)
  | 0, _ => none
  | fuel + 1, cs =>
      match skipFiller false cs with
      | ']' :: rest => some ([], rest)
      | start => do
          let (item, after) ← value start
          match skipFiller false after with
          | ',' :: rest => (items? value fuel rest).map fun (items, left) => (item :: items, left)
          | ']' :: rest => some ([item], rest)
          | _ => none

def assignment? (value : ValueReader) (cs : Chars) : Option ((List String × Value) × Chars) := do
  let (key, after) ← key? cs
  match after with
  | '=' :: rest =>
      let (item, left) ← value (skipBlanks rest)
      return ((key, item), left)
  | _ => none

def assignments? (value : ValueReader) :
    Nat → Chars → Option (List (List String × Value) × Chars)
  | 0, _ => none
  | fuel + 1, cs => do
      let (assignment, after) ← assignment? value cs
      match skipBlanks after with
      | ',' :: rest =>
          (assignments? value fuel rest).map fun (later, left) => (assignment :: later, left)
      | '\x7d' :: rest => some ([assignment], rest)
      | _ => none

def inlineTable? (value : ValueReader) (fuel : Nat) (cs : Chars) : Option (Value × Chars) :=
  match skipBlanks cs with
  | '\x7d' :: rest => some (.inlineTable [], rest)
  | start => do
      let (assignments, rest) ← assignments? value fuel start
      let entries ← collect assignments
      return (.inlineTable entries, rest)

/-- A value with at most `depth` arrays and inline tables around one another. The fuel is never
used up if it is more than there are characters. -/
def value? (fuel : Nat) : Nat → ValueReader
  | 0, cs => scalar?? cs
  | depth + 1, cs =>
      match cs with
      | '[' :: rest =>
          (items? (value? fuel depth) fuel rest).map fun (items, left) => (.array items, left)
      | '\x7b' :: rest => inlineTable? (value? fuel depth) fuel rest
      | _ => scalar?? cs

def maxNesting : Nat := maxDepth - 1

def statement? (fuel : Nat) : Chars → Option (Statement × Chars)
  | '[' :: '[' :: rest => do
      let (key, after) ← key? rest
      match after with
      | ']' :: ']' :: left => return (.element key, ← endLine? left)
      | _ => none
  | '[' :: rest => do
      let (key, after) ← key? rest
      match after with
      | ']' :: left => return (.table key, ← endLine? left)
      | _ => none
  | cs => do
      let ((key, value), left) ← assignment? (value? fuel maxNesting) cs
      return (.assign key value, ← endLine? left)

def statements? : Nat → Chars → Option (List Statement)
  | 0, _ => none
  | fuel + 1, cs =>
      match skipBlanks cs with
      | [] => some []
      | '#' :: rest => (endLine? ('#' :: rest)).bind (statements? fuel)
      | start =>
          match newline? start with
          | some rest => statements? fuel rest
          | none => do
              let (statement, rest) ← statement? fuel start
              let later ← statements? fuel rest
              return statement :: later

-- A byte order mark at the start is not part of the text.
def skipMark : Chars → Chars
  | '\ufeff' :: rest => rest
  | cs => cs

def parse? (text : String) : Option Entries := do
  let cs := skipMark text.toList
  assemble (← statements? (cs.length + 1) cs)

end PacketRelay.Document
