import PacketRelay.Log.Notice
import PacketRelay.Log.Pattern

/-!
The directives of log filters. A directive sets how much is let through, for
everything, or for the parts of the program whose names start with its target.
It may ask for a span of work or for a field as well.
-/

namespace PacketRelay.Log

abbrev Verbosity := Option Level

def Level.within (level : Level) : Verbosity → Bool
  | none => false
  | some most => level.rank ≤ most.rank

def ofRank? : Nat → Option Verbosity
  | 0 => some none
  | 1 => some (some .error)
  | 2 => some (some .warn)
  | 3 => some (some .info)
  | 4 => some (some .debug)
  | 5 => some (some .trace)
  | _ => none

def levelWords : List (String × Verbosity) :=
  [("off", none), ("error", some .error), ("warn", some .warn), ("info", some .info),
    ("debug", some .debug), ("trace", some .trace)]

def digitsValue (cs : List Char) : Nat :=
  cs.foldl (fun value c => value * 10 + (c.toNat - '0'.toNat)) 0

def rank? (cs : List Char) : Option Nat :=
  let digits := match cs with
    | '+' :: rest => rest
    | _ => cs
  if digits ≠ [] ∧ digits.all Char.isDigit then some (digitsValue digits) else none

def verbosity? (cs : List Char) : Option Verbosity :=
  match (rank? cs).bind ofRank? with
  | some verbosity => some verbosity
  | none => levelWords.lookup (String.ofList (cs.map Char.toLower))

structure Directive where
  /-- The start of the names it is for. -/
  target : String := ""
  /-- The field it asks for. -/
  field : Option String := none
  /-- A directive for spans of work lets no notice through: a notice is inside none. -/
  forSpans : Bool := false
  verbosity : Verbosity
  deriving DecidableEq, Repr

namespace Directive

inductive Fault where
  | malformed
  | unknownLevel
  | pattern (fault : Pattern.Fault)
  deriving DecidableEq, Repr

def Fault.message : Fault → String
  | .malformed => "invalid filter directive"
  | .unknownLevel =>
      "error parsing level filter: expected one of \"off\", \"error\", \"warn\", \"info\", " ++
        "\"debug\", \"trace\", or a number 0-5"
  | .pattern fault => s!"invalid field filter: {fault.message}"

/-! ## Its parts -/

def byteLength (cs : List Char) : Nat :=
  cs.foldr (fun c size => c.utf8Size + size) 0

/-- The characters from one byte position up to another, of a text that begins at a third. -/
def slice (first last : Nat) : Nat → List Char → List Char
  | _, [] => []
  | start, c :: rest =>
      if last ≤ start then []
      else
        let more := slice first last (start + c.utf8Size) rest
        if first ≤ start then c :: more else more

def isExponent : List Char → Bool
  | '+' :: digits | '-' :: digits | digits => digits ≠ [] && digits.all Char.isDigit

/-- A decimal number without a sign, or a name of one that is not finite. -/
def isDecimal (cs : List Char) : Bool :=
  let whole := cs.takeWhile Char.isDigit
  let (part, rest) := match cs.drop whole.length with
    | '.' :: more => (more.takeWhile Char.isDigit, more.dropWhile Char.isDigit)
    | rest => ([], rest)
  let ending := match rest with
    | [] => true
    | e :: exponent => e.toLower = 'e' && isExponent exponent
  (whole ++ part ≠ [] && ending) ||
    ["inf", "infinity", "nan"].contains (String.ofList (cs.map Char.toLower))

/-- Checks the value asked of a field. A number may have a plus sign, with which a pattern
cannot start; any other value that is no pattern is bad. -/
def checkValue (cs : List Char) : Except Fault Unit :=
  match cs with
  | '+' :: number =>
      if isDecimal number then .ok () else (Pattern.check cs).mapError .pattern
  | _ => (Pattern.check cs).mapError .pattern

def readField (cs : List Char) : Except Fault (String × Bool) :=
  let name := cs.takeWhile (· ≠ '=')
  match cs.drop name.length with
  | [] => .ok (String.ofList name, false)
  | _ :: value =>
      (checkValue (value.takeWhile (· ≠ '='))).map fun () => (String.ofList name, true)

def readLevel : List Char → Except Fault Verbosity
  | [] => .ok (some .trace)
  | cs =>
      match verbosity? cs with
      | some verbosity => .ok verbosity
      | none => .error .unknownLevel

/-! ## The whole -/

def startsTarget (c : Char) : Bool :=
  c = '-' || c = ':' || c = '_' || Text.isLetter c || Text.isNumeral c

/-- A word that is no level is a target of which everything is let through. -/
def ofWord (cs : List Char) : Directive :=
  match verbosity? cs with
  | some verbosity => { verbosity }
  | none => { target := String.ofList cs, verbosity := some .trace }

def afterSpan (whole : List Char) (start : Nat) (rest : List Char) : Except Fault Verbosity :=
  match rest with
  | [] => readLevel []
  | '=' :: _ => readLevel (slice (start + 1) (byteLength whole) 0 whole)
  | _ => .error .malformed

def ofSpan (target whole : List Char) (start : Nat) (cs : List Char) :
    Except Fault Directive := do
  let target := String.ofList target
  let name := cs.takeWhile fun c => c ≠ ']' ∧ c ≠ '\x7b'
  let start := start + byteLength name
  match cs.drop name.length with
  | ']' :: rest =>
      let verbosity ← afterSpan whole (start + 1) rest
      return { target, forSpans := true, verbosity }
  | '\x7b' :: cs =>
      let inner := cs.takeWhile (· ≠ '\x7d')
      let start := start + 1
      let stop := start + byteLength inner
      match inner, cs.drop inner.length with
      | _ :: _, _ :: closing =>
          let (field, valued) ← readField (slice start stop 0 whole)
          match closing with
          | ']' :: rest =>
              let verbosity ← afterSpan whole (stop + 2) rest
              return { target, field, forSpans := valued || !name.isEmpty, verbosity }
          | _ => .error .malformed
      | _, _ => .error .malformed
  | _ => .error .malformed

/-- Reads a directive. Its parts are found in the text without the blanks around
it, and taken from as many bytes into the whole text. -/
def parse (text : String) : Except Fault Directive :=
  let whole := text.toList
  match Text.trim whole with
  | [] => .error .malformed
  | first :: more =>
      let trimmed := first :: more
      let head := trimmed.takeWhile fun c => c ≠ '=' ∧ c ≠ '['
      let size := byteLength head
      let target := slice 0 size 0 whole
      if first ≠ '[' ∧ !startsTarget first then .error .malformed
      else
        match trimmed.drop head.length with
        | '=' :: _ =>
            (readLevel (slice (size + 1) (byteLength whole) 0 whole)).map fun verbosity =>
              { target := String.ofList target, verbosity }
        | _ :: rest => ofSpan target whole (size + 1) rest
        | [] => .ok (ofWord whole)

/-- Whether it is for a notice from a part of the program. The only field of a notice is its
message. -/
def covers (directive : Directive) (target : String) : Bool :=
  !directive.forSpans && directive.field.all (· = "message") &&
    directive.target.toList.isPrefixOf target.toList

/-- Of two directives for the same notice the one with the longer target decides, of two with
the same target the one that asks for a field. -/
def yieldsTo (held directive : Directive) : Bool :=
  held.target.length < directive.target.length ||
    (held.target.length = directive.target.length &&
      (held.field.isNone || directive.field.isSome))

end Directive
end PacketRelay.Log
