import PacketRelay.Channel
import PacketRelay.Roster
import PacketRelay.Tunnel.Interface

/-!
The relay between the tunnel and the clients, its totals, and how it is started
and shut down. A site is a relay together with the kernel it runs on.
-/

namespace PacketRelay

structure Relay where
  /-- The interface name of the tunnel while it is open. -/
  tunnel : Option String
  channel : Channel
  roster : Roster := {}
  running : Bool := false
  stopRequested : Bool := false
  fromTunnel : Nat := 0
  /-- Packets from the tunnel that fit into no frame. -/
  unframeable : Nat := 0
  connections : Nat := 0
  /-- The tallies of sessions that are over. -/
  retired : Tally := {}
  readMode : ReadMode
  readBudget : Nat
  pollTimeout : Nat

namespace Relay

def tally (relay : Relay) : Tally :=
  relay.roster.sessions.foldl (fun sum session => sum.add session.tally) relay.retired

def totals (relay : Relay) : Totals :=
  let tally := relay.tally
  { fromTunnel := relay.fromTunnel
    toTunnel := tally.forwarded
    tunnelDrops := relay.unframeable + (tally.received - tally.forwarded)
    fanOutDrops := tally.dropped
    connections := relay.connections }

def withTunnel (name : String) (channel : Channel) (settings : Settings) : Relay :=
  { tunnel := some name
    channel
    readMode := settings.readMode
    readBudget := settings.readBudget
    pollTimeout := settings.pollTimeout }

/-- Opens the tunnel, then the channel. If the channel is refused the tunnel is closed again. -/
def start (settings : Settings) (kernel : Kernel) : Except Failure Relay × Kernel :=
  match settings.check with
  | .error fault => (.error (.settings fault), kernel)
  | .ok () =>
      match Tunnel.open? settings.tunnelName kernel with
      | (.error failure, kernel) => (.error failure, kernel)
      | (.ok name, kernel) =>
          match Channel.bind settings.socketPath settings.socketMode settings.socketBufferSize
              kernel with
          | (.error failure, kernel) => (.error failure, kernel.close .tunnel)
          | (.ok channel, kernel) => (.ok (withTunnel name channel settings), kernel)

end Relay

structure Site where
  relay : Relay
  kernel : Kernel

namespace Site

def note (site : Site) (notice : Log.Notice) : Site :=
  { site with kernel := site.kernel.note notice }

def absorb (site : Site) (session : Session) : Site :=
  { relay := { site.relay with retired := site.relay.retired.add session.tally }
    kernel := site.kernel.close (.client session.label) }

def retire (site : Site) (session : Session) (parting : Parting) : Site :=
  let absorbed := (site.note (.parted session.id parting)).absorb session
  absorbed.note (.disconnected absorbed.relay.roster.size)

def closeTunnel (site : Site) : Site :=
  match site.relay.tunnel with
  | none => site
  | some name =>
      { relay := { site.relay with tunnel := none }
        kernel := (site.kernel.note (.closing name)).close .tunnel }

def closeSessions (site : Site) : Site :=
  let (sessions, roster) := site.relay.roster.drain
  sessions.foldl absorb { site with relay.roster := roster }

def closeChannel (site : Site) : Site :=
  let (channel, kernel) := site.relay.channel.close site.kernel
  { relay := { site.relay with channel }, kernel }

def isShutDown (relay : Relay) : Bool :=
  relay.tunnel.isNone && relay.roster.sessions.isEmpty && !relay.channel.isOpen

/-- Closes the tunnel, every client and the channel. Once that is done it does nothing. -/
def shutdown (site : Site) : Site :=
  let stopped := { site with relay.running := false }
  if isShutDown site.relay then stopped
  else
    let closed := stopped.closeTunnel.closeSessions.closeChannel
    closed.note (.stopped closed.relay.totals)

/-- Closes whatever is still held, as it happens to values that go out of use. -/
def letGo (site : Site) : Site :=
  let untunnelled := if site.relay.tunnel.isSome then site.kernel.close .tunnel else site.kernel
  let (channel, kernel) := site.relay.channel.close untunnelled
  { relay := { site.relay with tunnel := none, channel, roster.sessions := [] }
    kernel := site.relay.roster.sessions.foldl
      (fun kernel session => kernel.close (.client session.label)) kernel }

/-- The end of a relay: it is shut down, and then what it holds goes out of use. -/
def release (site : Site) : Site :=
  site.shutdown.letGo

end Site
end PacketRelay
