/-!
Why a settings text gives no settings: it is not well-formed, or the value of
one of its keys cannot stand there.
-/

namespace PacketRelay.Settings

/-- The keys a settings text may have, in the order in which they are listed. -/
def keys : List String :=
  ["tun_name", "socket_path", "socket_mode", "socket_buffer_size", "poll_timeout_ms",
    "device_read_mode", "client_read_budget", "log_level"]

inductive Expected where
  | text
  | path
  | mode
  | size
  | timeout
  deriving DecidableEq, Repr

/-- A value as a message shows it. The texts are already written out. -/
inductive Found where
  | integer (value : Int)
  | float (shown : String)
  | boolean (value : Bool)
  | text (quoted : String)
  | sequence
  | map
  deriving DecidableEq, Repr

inductive Misread where
  | malformed
  | unknownKey (key : String)
  | wrongType (found : Found) (expected : Expected)
  | outOfRange (value : Int) (expected : Expected)
  | unknownReadMode (name : String)
  | notStringOrTable
  | noReadMode
  | severalReadModes
  | notEmptyTable
  | notEmptyArray
  | notTable (found : String)
  deriving DecidableEq, Repr

def Expected.describe : Expected → String
  | .text => "a string"
  | .path => "path string"
  | .mode => "u32"
  | .size => "usize"
  | .timeout => "u16"

def Found.describe : Found → String
  | .integer value => s!"integer `{value}`"
  | .float shown => s!"floating point `{shown}`"
  | .boolean value => s!"boolean `{value}`"
  | .text quoted => s!"string {quoted}"
  | .sequence => "sequence"
  | .map => "map"

def Misread.message : Misread → String
  | .malformed => "syntax"
  | .unknownKey key =>
      let listed := ", ".intercalate (keys.map fun name => s!"`{name}`")
      s!"unknown field `{key}`, expected one of {listed}"
  | .wrongType found expected => s!"invalid type: {found.describe}, expected {expected.describe}"
  | .outOfRange value expected => s!"invalid value: integer `{value}`, expected {expected.describe}"
  | .unknownReadMode name => s!"unknown variant `{name}`, expected `drain` or `single`"
  | .notStringOrTable => "wanted string or table"
  | .noReadMode => "wanted exactly 1 element, found 0 elements"
  | .severalReadModes => "wanted exactly 1 element, more than 1 element"
  | .notEmptyTable => "expected empty table"
  | .notEmptyArray => "expected empty array"
  | .notTable found => s!"expected table, found {found}"

end PacketRelay.Settings
