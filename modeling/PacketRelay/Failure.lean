import PacketRelay.Errno
import PacketRelay.Frame.Basic
import PacketRelay.Settings.Basic
import PacketRelay.Settings.Misread

/-!
What can go wrong, in two scopes. A `Failure` ends the whole relay. A `Parting`
ends one client's session and never reaches the relay.
-/

namespace PacketRelay

inductive Failure where
  | tunnelUnavailable (name : String) (cause : Errno)
  | channelRefused (path : String) (cause : IoError)
  | tunnelIo (cause : Errno)
  | poll (cause : Errno)
  | settings (fault : Settings.Fault)
  | settingsFile (path : String) (cause : IoError)
  | settingsText (path : String) (cause : Settings.Misread)
  deriving DecidableEq, Repr

def Failure.message : Failure → String
  | .tunnelUnavailable name cause => s!"TUN device '{name}' unavailable: {cause.message}"
  | .channelRefused path cause => s!"failed to bind local channel at {path}: {cause.message}"
  | .tunnelIo cause => s!"TUN device I/O failed: {cause.message}"
  | .poll cause => s!"poll failed: {cause.symbolMessage}"
  | .settings fault => s!"invalid configuration: {fault.message}"
  | .settingsFile path cause => s!"failed to read config {path}: {cause.message}"
  | .settingsText path cause => s!"failed to parse config {path}: {cause.message}"

def Failure.cause? : Failure → Option String
  | .tunnelUnavailable _ cause => some cause.message
  | .channelRefused _ cause => some cause.message
  | .tunnelIo cause => some cause.message
  | .poll cause => some cause.symbolMessage
  | .settings _ => none
  | .settingsFile _ cause => some cause.message
  | .settingsText _ cause => some cause.message

inductive Parting where
  | peerClosed
  | protocol (violation : Frame.Violation)
  | io (cause : Errno)
  | hangUp
  deriving DecidableEq, Repr

def Parting.message : Parting → String
  | .peerClosed => "peer closed the connection"
  | .protocol violation => s!"protocol violation: {violation.message}"
  | .io cause => s!"I/O error: {cause.message}"
  | .hangUp => "socket hang-up"

end PacketRelay
