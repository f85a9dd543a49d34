import PacketRelay.Decimal.Shortest
import PacketRelay.Document.Value
import PacketRelay.Settings.Basic
import PacketRelay.Settings.Misread
import PacketRelay.Text.Quoted

/-!
From the entries of a document to settings. Each entry changes one field of the
defaults; the first entry that cannot be read, in the order of the document, is
the one reported.
-/

namespace PacketRelay

open Document (Value Entries)

def Document.Value.found : Value → Settings.Found
  | .text value => .text (Text.quoted value)
  | .integer value => .integer value
  | .float value => .float value.text
  | .boolean value => .boolean value
  | .array _ | .tables _ => .sequence
  | .moment | .inlineTable _ | .table .. => .map

namespace Settings

inductive Change where
  | tunnelName (name : String)
  | socketPath (path : String)
  | socketMode (mode : Nat)
  | socketBufferSize (size : Nat)
  | pollTimeout (timeout : Nat)
  | readMode (mode : ReadMode)
  | readBudget (budget : Nat)
  | logLevel (level : String)
  deriving DecidableEq, Repr

def change (settings : Settings) : Change → Settings
  | .tunnelName name => { settings with tunnelName := name }
  | .socketPath path => { settings with socketPath := path }
  | .socketMode mode => { settings with socketMode := mode }
  | .socketBufferSize size => { settings with socketBufferSize := size }
  | .pollTimeout timeout => { settings with pollTimeout := timeout }
  | .readMode mode => { settings with readMode := mode }
  | .readBudget budget => { settings with readBudget := budget }
  | .logLevel level => { settings with logLevel := level }

/-! ## Reading one value -/

def readText (expected : Expected) : Value → Except Misread String
  | .text value => .ok value
  | value => .error (.wrongType value.found expected)

/-- The largest number that a key takes: the largest of 32, 64 or 16 bits. -/
def Expected.largest : Expected → Nat
  | .mode => 4294967295
  | .size => 18446744073709551615
  | .timeout => 65535
  | .text | .path => 0

def readNumber (expected : Expected) : Value → Except Misread Nat
  | .integer value =>
      if 0 ≤ value ∧ value ≤ expected.largest then .ok value.toNat
      else .error (.outOfRange value expected)
  | value => .error (.wrongType value.found expected)

def readModeNamed (name : String) : Except Misread ReadMode :=
  if name = "drain" then .ok .drain
  else if name = "single" then .ok .single
  else .error (.unknownReadMode name)

def checkBare : Value → Except Misread Unit
  | .table _ _ [] | .inlineTable [] | .array [] | .tables [] => .ok ()
  | .table .. | .inlineTable _ | .array _ => .error .notEmptyTable
  | .tables _ => .error .notEmptyArray
  | value => .error (.notTable value.kind)

def readModeOfEntries : Entries → Except Misread ReadMode
  | [] => .error .noReadMode
  | [(name, value)] => do
      let mode ← readModeNamed name
      checkBare value
      return mode
  | _ => .error .severalReadModes

def readReadMode : Value → Except Misread ReadMode
  | .text name => readModeNamed name
  | .inlineTable entries | .table _ _ entries => readModeOfEntries entries
  | _ => .error .notStringOrTable

/-! ## Reading entries -/

def readEntry (key : String) (value : Value) : Except Misread Change :=
  match key with
  | "tun_name" => .tunnelName <$> readText .text value
  | "socket_path" => .socketPath <$> readText .path value
  | "socket_mode" => .socketMode <$> readNumber .mode value
  | "socket_buffer_size" => .socketBufferSize <$> readNumber .size value
  | "poll_timeout_ms" => .pollTimeout <$> readNumber .timeout value
  | "device_read_mode" => .readMode <$> readReadMode value
  | "client_read_budget" => .readBudget <$> readNumber .size value
  | "log_level" => .logLevel <$> readText .text value
  | _ => .error (.unknownKey key)

/-- The changes that entries ask for, or what is wrong with the first bad one. -/
def readEntries : Entries → Except Misread (List Change)
  | [] => .ok []
  | (key, value) :: rest => do
      let first ← readEntry key value
      let later ← readEntries rest
      return first :: later

def ofEntries (entries : Entries) : Except Misread Settings := do
  return (← readEntries entries).foldl change {}

end Settings
end PacketRelay
