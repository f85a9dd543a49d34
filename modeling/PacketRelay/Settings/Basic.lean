/-!
The settings of a relay, their defaults and the checks they have to pass. The
checks are made in a fixed order, and the first that fails is the one reported.
-/

namespace PacketRelay

inductive ReadMode where
  | drain
  | single
  deriving DecidableEq, Repr

structure Settings where
  tunnelName : String := "vpn0"
  socketPath : String := "/tmp/vpn-tun.sock"
  socketMode : Nat := 511
  socketBufferSize : Nat := 1048576
  pollTimeout : Nat := 10
  readMode : ReadMode := .drain
  readBudget : Nat := 16
  logLevel : String := "info"
  deriving DecidableEq, Repr

namespace Settings

/-- An interface name has room for fifteen bytes and a terminator. -/
def maxNameBytes : Nat := 15

def maxMode : Nat := 4095

def maxPollTimeout : Nat := 1000

inductive Fault where
  | tunnelName (name : String)
  | noSocketPath
  | socketMode (mode : Nat)
  | pollTimeout
  | readBudget
  | other (reason : String)
  deriving DecidableEq, Repr

def octal (n : Nat) : String :=
  String.ofList (Nat.toDigits 8 n)

def Fault.message : Fault → String
  | .tunnelName name => s!"interface name '{name}' must be 1-{maxNameBytes} bytes"
  | .noSocketPath => "socket_path is empty"
  | .socketMode mode => s!"socket_mode {octal mode} is not a permission mask"
  | .pollTimeout => s!"poll_timeout_ms must be within 1-{maxPollTimeout}"
  | .readBudget => "client_read_budget must be at least 1"
  | .other reason => reason

def check (settings : Settings) : Except Fault Unit :=
  if settings.tunnelName = "" ∨ maxNameBytes < settings.tunnelName.utf8ByteSize then
    .error (.tunnelName settings.tunnelName)
  else if settings.socketPath = "" then .error .noSocketPath
  else if maxMode < settings.socketMode then .error (.socketMode settings.socketMode)
  else if settings.pollTimeout = 0 ∨ maxPollTimeout < settings.pollTimeout then
    .error .pollTimeout
  else if settings.readBudget = 0 then .error .readBudget
  else .ok ()

end Settings
end PacketRelay
