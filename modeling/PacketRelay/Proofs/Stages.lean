import PacketRelay.Proofs.History
import PacketRelay.Relay.Pass

/-!
The relay in small steps. Between two of them it may still owe a packet to some
clients, and some sessions that are over may still be on the roster. Passes and
shutdowns are paths of such steps, so what every step keeps, they keep.
-/

namespace PacketRelay

open Kernel (Handle)

structure Stage where
  site : Site
  /-- The sessions that a packet is still to be offered to, by id. -/
  offers : List (Nat × Bytes) := []
  /-- The sessions that are over and have not left yet, by id. -/
  leaving : List (Nat × Parting) := []

namespace Stage

abbrev rest (site : Site) : Stage := { site }

end Stage

def Sending.partings (id : Nat) : Sending → List (Nat × Parting)
  | .closed parting => [(id, parting)]
  | _ => []

def Disposition.partings (id : Nat) : Disposition → List (Nat × Parting)
  | .closed parting => [(id, parting)]
  | _ => []

namespace Site

def give (handle : Handle) (site : Site) : Site :=
  { site.overTunnel handle with relay.fromTunnel := site.relay.fromTunnel + 1 }

def drop (site : Site) : Site :=
  { site with relay.unframeable := site.relay.unframeable + 1 }

def leave (session : Session) (parting : Parting) (site : Site) : Site :=
  ({ site with relay.roster := (site.relay.roster.remove session.id).2 }.note
    (.parted session.id parting)).absorb session

def dismiss (session : Session) (others : List Session) (site : Site) : Site :=
  { site with relay.roster.sessions := others }.absorb session

end Site

inductive Turn : Stage → Stage → Prop
  | noted (stage : Stage) (notice : Log.Notice) (plain : notice.isParting = false) :
      Turn stage { stage with site := stage.site.note notice }
  | polled (site : Site)
      (harmless : ∀ errno, (site.kernel.poll site.relay.pollTimeout
        ((Site.watched site.relay).map (·.2))).1 = .error errno → errno = .interrupted) :
      Turn (.rest site) (.rest { site with
        kernel := (site.kernel.poll site.relay.pollTimeout
          ((Site.watched site.relay).map (·.2))).2 })
  | idle {site : Site} {handle : Handle}
      (received : Tunnel.receive Tunnel.maxPacketSize site.kernel.tunnelHandle =
        (.ok none, handle))
      (present : site.relay.tunnel.isSome) :
      Turn (.rest site) (.rest (site.overTunnel handle))
  | took {site : Site} {packet : Bytes} {handle : Handle}
      (received : Tunnel.receive Tunnel.maxPacketSize site.kernel.tunnelHandle =
        (.ok (some packet), handle))
      (legal : Frame.encode packet = .ok (Frame.wrap packet))
      (present : site.relay.tunnel.isSome) :
      Turn (.rest site)
        ⟨site.give handle, site.relay.roster.sessions.map fun session => (session.id, packet), []⟩
  | dropped {site : Site} {packet : Bytes} {handle : Handle} {violation : Frame.Violation}
      (received : Tunnel.receive Tunnel.maxPacketSize site.kernel.tunnelHandle =
        (.ok (some packet), handle))
      (illegal : Frame.encode packet = .error violation)
      (present : site.relay.tunnel.isSome) :
      Turn (.rest site) (.rest (site.give handle).drop)
  | offered {site : Site} {session : Session} {packet : Bytes} {offers : List (Nat × Bytes)}
      {leaving : List (Nat × Parting)} {sending : Sending} {line : Line}
      (found : site.relay.roster.find? session.id = some session)
      (sent : (site.kernel.line session).send (Frame.wrap packet) = (sending, line)) :
      Turn ⟨site, (session.id, packet) :: offers, leaving⟩
        ⟨site.overLine line, offers, leaving ++ sending.partings session.id⟩
  | flushed {site : Site} {session : Session} {line : Line}
      (found : site.relay.roster.find? session.id = some session)
      (flush : (site.kernel.line session).flush = (.ok (), line)) :
      Turn (.rest site) (.rest (site.overLine line))
  | broke {site : Site} {session : Session} {line : Line} {parting : Parting}
      (found : site.relay.roster.find? session.id = some session)
      (flush : (site.kernel.line session).flush = (.error parting, line)) :
      Turn (.rest site) ⟨site.overLine line, [], [(session.id, parting)]⟩
  | read {site : Site} {session : Session} {name : String} {disposition : Disposition}
      {circuit : Circuit}
      (found : site.relay.roster.find? session.id = some session)
      (served : (site.kernel.circuit session).read name Tunnel.maxPacketSize
        site.relay.readBudget = (.ok disposition, circuit))
      (present : site.relay.tunnel.isSome) :
      Turn (.rest site) ⟨site.overCircuit circuit, [], disposition.partings session.id⟩
  | hungUp {site : Site} {session : Session}
      (found : site.relay.roster.find? session.id = some session) :
      Turn (.rest site) ⟨site, [], [(session.id, .hangUp)]⟩
  | left {site : Site} {session : Session} {parting : Parting} {leaving : List (Nat × Parting)}
      (found : site.relay.roster.find? session.id = some session) :
      Turn ⟨site, [], (session.id, parting) :: leaving⟩ ⟨site.leave session parting, [], leaving⟩
  | accepted {site : Site} {label : Nat} {kernel : Kernel}
      (taken : site.relay.channel.accept site.kernel = (.ok (some label), kernel)) :
      Turn (.rest site) (.rest ({ site with kernel }.enroll label))
  | refused {site : Site} {kernel : Kernel} {result : Except Errno (Option Nat)}
      (taken : site.relay.channel.accept site.kernel = (result, kernel))
      (noneTaken : ∀ label, result ≠ .ok (some label)) :
      Turn (.rest site) (.rest { site with kernel })
  | closedTunnel (site : Site) : Turn (.rest site) (.rest site.closeTunnel)
  | dismissed {site : Site} {session : Session} {others : List Session}
      (sessions : site.relay.roster.sessions = session :: others) :
      Turn (.rest site) (.rest (site.dismiss session others))
  | closedChannel (site : Site) : Turn (.rest site) (.rest site.closeChannel)
  | marked (site : Site) (running : Bool) :
      Turn (.rest site) (.rest { site with relay.running := running })

/-- The ways in which a pass fails. -/
inductive Fatal : Site → Failure → Site → Prop
  | poll {site : Site} {errno : Errno} {kernel : Kernel}
      (failed : site.kernel.poll site.relay.pollTimeout ((Site.watched site.relay).map (·.2)) =
        (.error errno, kernel))
      (serious : errno ≠ .interrupted) : Fatal site (.poll errno) { site with kernel }
  | receive {site : Site} {errno : Errno} {handle : Handle}
      (failed : Tunnel.receive Tunnel.maxPacketSize site.kernel.tunnelHandle =
        (.error errno, handle))
      (present : site.relay.tunnel.isSome) :
      Fatal site (.tunnelIo errno) (site.overTunnel handle)
  | transmit {site : Site} {session : Session} {name : String} {errno : Errno}
      {circuit : Circuit}
      (found : site.relay.roster.find? session.id = some session)
      (failed : (site.kernel.circuit session).read name Tunnel.maxPacketSize
        site.relay.readBudget = (.error errno, circuit))
      (present : site.relay.tunnel.isSome) :
      Fatal site (.tunnelIo errno) (site.overCircuit circuit)

inductive Path : Stage → Except Failure Unit → Stage → Prop
  | done (stage : Stage) : Path stage (.ok ()) stage
  | turn {stage next last : Stage} {result : Except Failure Unit} :
      Turn stage next → Path next result last → Path stage result last
  | failed {site after : Site} {failure : Failure} :
      Fatal site failure after → Path (.rest site) (.error failure) (.rest after)

namespace Path

theorem single {stage next : Stage} (step : Turn stage next) : Path stage (.ok ()) next :=
  .turn step (.done next)

theorem trans {stage middle last : Stage} {first : Except Failure Unit}
    {result : Except Failure Unit} (start : Path stage first middle) (ok : first = .ok ())
    (rest : Path middle result last) : Path stage result last := by
  induction start with
  | done => exact rest
  | turn step _ ih => exact .turn step (ih ok rest)
  | failed => cases ok

/-- What every turn and every failure keeps, a path keeps. -/
theorem invariant {holds : Stage → Prop}
    (turns : ∀ stage next, Turn stage next → holds stage → holds next)
    (failures : ∀ site failure after, Fatal site failure after → holds (.rest site) →
      holds (.rest after))
    {stage last : Stage} {result : Except Failure Unit} (path : Path stage result last)
    (start : holds stage) : holds last := by
  induction path with
  | done => exact start
  | turn step _ ih => exact ih (turns _ _ step start)
  | failed fatal => exact failures _ _ _ fatal start

end Path
end PacketRelay
