import PacketRelay.Session.Basic
import PacketRelay.Tunnel.Basic

/-!
Serving a client that has something to read: each complete frame goes to the
tunnel. A circuit is a client's line together with the tunnel behind it. Only a
tunnel failure is returned as an error; all that concerns the client alone ends
up in the disposition.
-/

namespace PacketRelay

inductive Disposition where
  /-- The read budget is spent; there may be more to read. -/
  | unfinished
  /-- There is nothing more to read now. -/
  | idle
  | closed (parting : Parting)
  deriving DecidableEq, Repr

structure Circuit extends Line where
  tunnel : Kernel.Endpoint

namespace Circuit

def tunnelHandle (circuit : Circuit) : Kernel.Handle :=
  ⟨.tunnel, circuit.tunnel, circuit.record⟩

def overTunnel (circuit : Circuit) (handle : Kernel.Handle) : Circuit :=
  { circuit with tunnel := handle.endpoint, record := handle.record }

def overStream (circuit : Circuit) (handle : Kernel.Handle) : Circuit :=
  { circuit with toLine := circuit.toLine.withHandle handle }

def update (circuit : Circuit) (change : Session → Session) : Circuit :=
  { circuit with toLine := circuit.toLine.update change }

def note (circuit : Circuit) (notice : Log.Notice) : Circuit :=
  { circuit with toLine := circuit.toLine.note notice }

def part (parting : Parting) (circuit : Circuit) : Except Errno Disposition × Circuit :=
  (.ok (.closed parting), { circuit with toLine := circuit.toLine.disconnect })

def countReceived (circuit : Circuit) : Circuit :=
  circuit.update Session.countReceived

def forwardPacket (name : String) (packet : Bytes) (circuit : Circuit) :
    Except Errno Unit × Circuit :=
  match Tunnel.transmit name packet circuit.countReceived.tunnelHandle with
  | (.ok .written, handle) =>
      (.ok (), (circuit.countReceived.overTunnel handle).update Session.countForwarded)
  | (.ok .dropped, handle) => (.ok (), circuit.countReceived.overTunnel handle)
  | (.error errno, handle) => (.error errno, circuit.countReceived.overTunnel handle)

theorem forwardPacket_decoder (name : String) (packet : Bytes) (circuit : Circuit) :
    (circuit.forwardPacket name packet).2.session.decoder = circuit.session.decoder := by
  unfold forwardPacket
  split <;> rfl

theorem decoder_of_forwarded {name : String} {packet : Bytes} {circuit after : Circuit}
    {decoder : Frame.Decoder} {result : Except Errno Unit}
    (forwarded : (circuit.update fun session => { session with decoder }).forwardPacket name
      packet = (result, after)) : after.session.decoder = decoder := by
  have kept := forwardPacket_decoder name packet
    (circuit.update fun session => { session with decoder })
  rw [forwarded] at kept
  exact kept

def forward (name : String) (input : Bytes) (circuit : Circuit) :
    Except Errno (Option Frame.Violation) × Circuit :=
  if _ : input = [] then (.ok none, circuit)
  else
    match _ : circuit.session.decoder.decode input with
    | ⟨.error violation, decoder, _⟩ =>
        (.ok (some violation), circuit.update fun session => { session with decoder })
    | ⟨.ok none, decoder, rest⟩ =>
        (circuit.update fun session => { session with decoder }).forward name rest
    | ⟨.ok (some packet), decoder, rest⟩ =>
        match _ : (circuit.update fun session => { session with decoder }).forwardPacket name
            packet with
        | (.error errno, after) => (.error errno, after)
        | (.ok (), after) => after.forward name rest
termination_by 2 * input.length + circuit.session.decoder.overdue
decreasing_by
  all_goals
    have decoded := ‹circuit.session.decoder.decode input = _›
    have progress := Frame.Decoder.decode_progress circuit.session.decoder input ‹_›
      (by rw [decoded])
    rw [decoded] at progress
  · exact progress
  · have kept := forwardPacket_decoder name packet
      (circuit.update fun session => { session with decoder })
    simp_all [update, Line.update]

def serve (name : String) (size : Nat) : Nat → Circuit → Except Errno Disposition × Circuit
  | 0, circuit => (.ok .unfinished, circuit.note (.budgetSpent circuit.session.id))
  | budget + 1, circuit =>
      match circuit.toLine.handle.readStream size with
      | (.ok [], handle) => (circuit.overStream handle).part .peerClosed
      | (.ok bytes, handle) =>
          match (circuit.overStream handle).forward name bytes with
          | (.error errno, after) => (.error errno, after)
          | (.ok (some violation), after) => after.part (.protocol violation)
          | (.ok none, after) => after.serve name size budget
      | (.error errno, handle) =>
          if errno = .again then (.ok .idle, circuit.overStream handle)
          else (circuit.overStream handle).part (.io errno)

/-- Reads what the client has sent. A session that is over is left alone. -/
def read (name : String) (size budget : Nat) (circuit : Circuit) :
    Except Errno Disposition × Circuit :=
  if circuit.session.connected then circuit.serve name size budget else (.ok .idle, circuit)

end Circuit
end PacketRelay
