import PacketRelay.Failure
import PacketRelay.Kernel.Call
import PacketRelay.Packet.Summary
import PacketRelay.Totals

/-!
The events that are logged. Each has a level, the part of the program it comes
from, and one line of text.
-/

namespace PacketRelay.Log

inductive Level where
  | error
  | warn
  | info
  | debug
  | trace
  deriving DecidableEq, Repr

def Level.rank : Level → Nat
  | .error => 1
  | .warn => 2
  | .info => 3
  | .debug => 4
  | .trace => 5

def Level.name : Level → String
  | .error => "ERROR"
  | .warn => "WARN"
  | .info => "INFO"
  | .debug => "DEBUG"
  | .trace => "TRACE"

inductive Notice where
  | loadingSettings (path : String)
  | tunnelOpened (name : String)
  | tunnelTook (name : String) (packet : Bytes)
  | shortWrite (name : String) (taken size : Nat)
  | tunnelBusy (name : String) (size : Nat)
  | packetRejected (name : String) (packet : Bytes) (cause : Errno)
  | staleRemoved (path : String)
  | bufferRefused (buffer : Kernel.Buffer) (size : Nat) (cause : Errno)
  | modeRefused (path : String) (cause : IoError)
  | listening (path : String)
  | socketRemoved (path : String)
  | removalRefused (path : String) (cause : IoError)
  | budgetSpent (id : Nat)
  | caughtUp (id : Nat)
  | running
  | fatal (failure : Failure)
  | connected (id total : Nat)
  | acceptFailed (cause : Errno)
  | tunnelGave (name : String) (packet : Bytes)
  | milestone (packets : Nat) (name : String) (clients : Nat)
  | unframeable (violation : Frame.Violation)
  | clientsBusy (count : Nat)
  | parted (id : Nat) (parting : Parting)
  | disconnected (remaining : Nat)
  | closing (name : String)
  | stopped (totals : Totals)
  | shutDown
  deriving DecidableEq, Repr

def Notice.level : Notice → Level
  | .fatal _ => .error
  | .shortWrite .. | .packetRejected .. | .modeRefused .. | .removalRefused ..
  | .acceptFailed _ | .unframeable _ => .warn
  | .parted _ .peerClosed => .debug
  | .parted _ _ => .warn
  | .loadingSettings _ | .tunnelOpened _ | .listening _ | .running | .connected .. | .milestone ..
  | .disconnected _ | .stopped _ | .shutDown => .info
  | .staleRemoved _ | .bufferRefused .. | .socketRemoved _ | .caughtUp _ | .closing _ => .debug
  | .tunnelTook .. | .tunnelBusy .. | .budgetSpent _ | .tunnelGave .. | .clientsBusy _ => .trace

def Notice.target : Notice → String
  | .loadingSettings _ => "tunbridge::config"
  | .tunnelOpened _ => "tunbridge::device::tun"
  | .tunnelTook .. | .shortWrite .. | .tunnelBusy .. | .packetRejected .. => "tunbridge::device"
  | .staleRemoved _ | .bufferRefused .. | .modeRefused .. | .listening _ | .socketRemoved _
  | .removalRefused .. => "tunbridge::listener"
  | .budgetSpent _ | .caughtUp _ => "tunbridge::session"
  | .shutDown => "tunbridge"
  | .running | .fatal _ | .connected .. | .acceptFailed _ | .tunnelGave .. | .milestone ..
  | .unframeable _ | .clientsBusy _ | .parted .. | .disconnected _ | .closing _
  | .stopped _ => "tunbridge::bridge"

def Notice.text : Notice → String
  | .loadingSettings path => s!"Loading configuration from {path}"
  | .tunnelOpened name => s!"Opened TUN device {name}"
  | .tunnelTook name packet => s!"{name} <- {Packet.summary packet}"
  | .shortWrite name taken size => s!"short write to {name}: {taken} of {size} bytes"
  | .tunnelBusy name size => s!"{name} busy, dropping {size} byte packet"
  | .packetRejected name packet cause =>
      s!"{name} rejected packet ({Packet.summary packet}): {cause.message}"
  | .staleRemoved path => s!"Removed stale socket {path}"
  | .bufferRefused buffer size cause =>
      s!"Could not set {buffer.option} to {size}: {cause.symbolMessage}"
  | .modeRefused path cause => s!"Failed to set permissions on {path}: {cause.message}"
  | .listening path => s!"Listening on {path}"
  | .socketRemoved path => s!"Removed socket {path}"
  | .removalRefused path cause => s!"Failed to remove {path}: {cause.message}"
  | .budgetSpent id => s!"client #{id} read budget exhausted"
  | .caughtUp id => s!"client #{id} caught up"
  | .running => "Running..."
  | .fatal failure => s!"Fatal: {failure.message}"
  | .connected id total => s!"Client #{id} connected ({total} total)"
  | .acceptFailed cause => s!"accept failed: {cause.message}"
  | .tunnelGave name packet => s!"{name} -> {Packet.summary packet}"
  | .milestone packets name clients => s!"{packets} packets from {name} ({clients} clients)"
  | .unframeable violation => s!"dropping device packet: {violation.message}"
  | .clientsBusy count => s!"frame dropped for {count} busy client(s)"
  | .parted id parting => s!"Client #{id}: {parting.message}"
  | .disconnected remaining => s!"Client disconnected ({remaining} remaining)"
  | .closing name => s!"Closing {name}"
  | .stopped totals =>
      s!"Stopped (processed {totals.fromTunnel} packets, {totals.toTunnel} to device, " ++
        s!"{totals.fanOutDrops} fan-out drops, {totals.tunnelDrops} device drops)"
  | .shutDown => "Shut down cleanly"

end PacketRelay.Log
