import PacketRelay.Relay.Basic

/-!
One pass of the relay: a poll, and then each source that is ready is served
once, in the order in which it was watched. A failure of the poll or of the
tunnel ends the pass; whatever a client does ends at most its own session.
-/

namespace PacketRelay

open Kernel (Descriptor Flags)

inductive Source where
  | tunnel
  | channel
  | client (id : Nat)
  deriving DecidableEq, Repr

namespace Site

/-! ## Accepting clients -/

def enroll (label : Nat) (site : Site) : Site :=
  let (id, roster) := site.relay.roster.insert label
  { relay := { site.relay with roster, connections := site.relay.connections + 1 }
    kernel := site.kernel.note (.connected id roster.size) }

/-- Accepts until the queue is empty or an error stops it; what is left waits for a later pass. -/
def acceptClients (site : Site) : Site :=
  match _ : site.relay.channel.accept site.kernel with
  | (.ok none, kernel) => { site with kernel }
  | (.error errno, kernel) => { site with kernel := kernel.note (.acceptFailed errno) }
  | (.ok (some label), kernel) => ({ site with kernel }.enroll label).acceptClients
termination_by site.kernel.knocks.length
decreasing_by
  have accepted := ‹site.relay.channel.accept site.kernel = _›
  have shorter := Channel.accept_some site.relay.channel label site.kernel
    (by rw [accepted])
  rw [accepted] at shorter
  exact shorter

/-! ## Reading the tunnel -/

def milestone : Nat := 10000

def fanOut (frame : Bytes) (site : Site) : Site :=
  let (report, roster, kernel) := site.relay.roster.broadcast frame site.kernel
  let offered : Site := { relay := { site.relay with roster }, kernel }
  let noted := if report.dropped = 0 then offered else offered.note (.clientsBusy report.dropped)
  report.closed.foldl (fun site (session, parting) => site.retire session parting) noted

def countPacket (name : String) (packet : Bytes) (site : Site) : Site :=
  let seen := site.note (.tunnelGave name packet)
  let count := site.relay.fromTunnel + 1
  let counted := { seen with relay.fromTunnel := count }
  if count % milestone = 0 then counted.note (.milestone count name site.relay.roster.size)
  else counted

/-- Passes one packet from the tunnel on to the clients, or drops it if no frame can carry it. -/
def relayPacket (name : String) (packet : Bytes) (site : Site) : Site :=
  let counted := site.countPacket name packet
  match Frame.encode packet with
  | .ok frame => counted.fanOut frame
  | .error violation =>
      let dropped := { counted with relay.unframeable := counted.relay.unframeable + 1 }
      dropped.note (.unframeable violation)

theorem fanOut_tunnel (frame : Bytes) (site : Site) :
    (site.fanOut frame).kernel.tunnel = site.kernel.tunnel := by
  have kept := Roster.broadcast_tunnel frame site.relay.roster site.kernel
  unfold fanOut
  generalize site.relay.roster.broadcast frame site.kernel = made at kept ⊢
  obtain ⟨report, roster, kernel⟩ := made
  have retired (closed : List (Session × Parting)) (start : Site) :
      (closed.foldl (fun site (session, parting) => site.retire session parting)
        start).kernel.tunnel = start.kernel.tunnel := by
    induction closed generalizing start with
    | nil => rfl
    | cons leaver rest ih => exact ih _
  dsimp only
  rw [retired]
  split <;> exact kept

theorem relayPacket_tunnel (name : String) (packet : Bytes) (site : Site) :
    (site.relayPacket name packet).kernel.tunnel = site.kernel.tunnel := by
  have counted : (site.countPacket name packet).kernel.tunnel = site.kernel.tunnel := by
    unfold countPacket
    dsimp only
    split <;> rfl
  unfold relayPacket
  dsimp only
  split
  · rw [fanOut_tunnel, counted]
  · exact counted

def overTunnel (site : Site) (handle : Kernel.Handle) : Site :=
  { site with kernel := site.kernel.overTunnel handle }

def readTunnel (site : Site) : Except Failure Unit × Site :=
  match site.relay.tunnel with
  | none => (.ok (), site)
  | some name =>
      match _ : Tunnel.receive Tunnel.maxPacketSize site.kernel.tunnelHandle with
      | (.error errno, handle) => (.error (.tunnelIo errno), site.overTunnel handle)
      | (.ok none, handle) => (.ok (), site.overTunnel handle)
      | (.ok (some packet), handle) =>
          let after := (site.overTunnel handle).relayPacket name packet
          match site.relay.readMode with
          | .single => (.ok (), after)
          | .drain => after.readTunnel
termination_by site.kernel.tunnel.inbound.length
decreasing_by
  have received := ‹Tunnel.receive Tunnel.maxPacketSize site.kernel.tunnelHandle = _›
  have shorter := Tunnel.receive_some Tunnel.maxPacketSize site.kernel.tunnelHandle packet
    (by rw [received])
  rw [received] at shorter
  rw [relayPacket_tunnel]
  exact shorter

/-! ## Serving a client -/

def closeSession (id : Nat) (parting : Parting) (site : Site) : Site :=
  match site.relay.roster.remove id with
  | (none, _) => site
  | (some session, roster) => { site with relay.roster := roster }.retire session parting

def overLine (site : Site) (line : Line) : Site :=
  { relay := { site.relay with roster := site.relay.roster.update line.session }
    kernel := site.kernel.overLine line }

def overCircuit (site : Site) (circuit : Circuit) : Site :=
  { relay := { site.relay with roster := site.relay.roster.update circuit.session }
    kernel := site.kernel.overCircuit circuit }

def isBroken (flags : Flags) : Bool :=
  flags.hungUp || flags.failed || flags.invalid

/-- Reads from a client whose tail, if it had one, has been seen to. -/
def readClient (session : Session) (flags : Flags) (site : Site) : Except Failure Unit × Site :=
  if flags.readable then
    match site.relay.tunnel with
    | none => (.ok (), site)
    | some name =>
        match (site.kernel.circuit session).read name Tunnel.maxPacketSize
            site.relay.readBudget with
        | (.error errno, circuit) => (.error (.tunnelIo errno), site.overCircuit circuit)
        | (.ok (.closed parting), circuit) =>
            (.ok (), (site.overCircuit circuit).closeSession session.id parting)
        | (.ok _, circuit) => (.ok (), site.overCircuit circuit)
  else if isBroken flags then (.ok (), site.closeSession session.id .hangUp)
  else (.ok (), site)

-- A client may be gone by now: a broadcast earlier in the pass may have closed it.
def serveClient (id : Nat) (flags : Flags) (site : Site) : Except Failure Unit × Site :=
  match site.relay.roster.find? id with
  | none => (.ok (), site)
  | some session =>
      if flags.writable then
        match (site.kernel.line session).flush with
        | (.error parting, line) => (.ok (), (site.overLine line).closeSession id parting)
        | (.ok (), line) => (site.overLine line).readClient line.session flags
      else site.readClient session flags

/-! ## The pass -/

def watchedFlags (session : Session) : Flags :=
  { readable := true, writable := session.wantsWrite }

def watched (relay : Relay) : List (Source × Descriptor × Flags) :=
  (if relay.tunnel.isSome then [(.tunnel, .tunnel, Flags.reading)] else []) ++
  (if relay.channel.isOpen then [(.channel, .channel, Flags.reading)] else []) ++
  relay.roster.sessions.map fun session =>
    (.client session.id, .client session.label, watchedFlags session)

/-- Polls, and gives the sources on which something is reported. An interrupted
poll reports nothing. -/
def ready (site : Site) : Except Failure (List (Source × Flags)) × Site :=
  let sources := watched site.relay
  match site.kernel.poll site.relay.pollTimeout (sources.map (·.2)) with
  | (.ok reports, kernel) =>
      (.ok (((sources.map (·.1)).zip reports).filter fun source => source.2.any),
        { site with kernel })
  | (.error errno, kernel) =>
      (if errno = .interrupted then .ok [] else .error (.poll errno), { site with kernel })

def serve (source : Source) (flags : Flags) (site : Site) : Except Failure Unit × Site :=
  match source with
  | .tunnel => site.readTunnel
  | .channel => (.ok (), site.acceptClients)
  | .client id => site.serveClient id flags

def serveAll : List (Source × Flags) → Site → Except Failure Unit × Site
  | [], site => (.ok (), site)
  | (source, flags) :: rest, site =>
      match site.serve source flags with
      | (.error failure, after) => (.error failure, after)
      | (.ok (), after) => after.serveAll rest

def pass (site : Site) : Except Failure Unit × Site :=
  match site.ready with
  | (.error failure, after) => (.error failure, after)
  | (.ok sources, after) => after.serveAll sources

/-! ## Running -/

def requestStop (site : Site) : Site :=
  { site with relay.stopRequested := true }

/-- Passes until a stop is requested, at the latest during poll number `polls`, or a pass fails. -/
def passes : Nat → Site → Except Failure Unit × Site
  | 0, site => (.ok (), site.requestStop)
  | polls + 1, site =>
      if site.relay.stopRequested then (.ok (), site)
      else
        match (if polls = 0 then site.requestStop else site).pass with
        | (.error failure, after) => (.error failure, after.note (.fatal failure))
        | (.ok (), after) => after.passes polls

/-- Runs the relay; however it ends, it is shut down. -/
def run (polls : Nat) (site : Site) : Except Failure Unit × Site :=
  let (result, after) := ({ site with relay.running := true }.note .running).passes polls
  (result, after.shutdown)

end Site
end PacketRelay
