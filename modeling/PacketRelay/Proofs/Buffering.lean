import PacketRelay.Proofs.Dispatch
import PacketRelay.Proofs.Moves

/-!
A relay that does all its reading into one buffer. A read overwrites the front of it,
as far as it gets, and what was read is looked up there. Main statement: whatever the
buffer holds before, this comes to the same as reading into fresh memory each time.
-/

namespace PacketRelay

open Kernel (Endpoint Flags Handle)

/-- A buffer for one packet of any length, or one read from a client. -/
structure Scratch where
  bytes : Bytes
  sized : bytes.length = Tunnel.maxPacketSize

namespace Scratch

/-- Overwrites the front. What is behind it stays from before. -/
def load (read : Bytes) (scratch : Scratch) : Scratch where
  bytes := read.take scratch.bytes.length ++ scratch.bytes.drop read.length
  sized := by
    have sized := scratch.sized
    simp only [List.length_append, List.length_take, List.length_drop]
    omega

def front (count : Nat) (scratch : Scratch) : Bytes :=
  scratch.bytes.take count

def fill : Except Errno Bytes × Handle → Scratch → Except Errno Nat × Handle × Scratch
  | (.ok read, handle), scratch => (.ok read.length, handle, scratch.load read)
  | (.error errno, handle), scratch => (.error errno, handle, scratch)

theorem front_load {read : Bytes} (fits : read.length ≤ Tunnel.maxPacketSize)
    (scratch : Scratch) : (scratch.load read).front read.length = read := by
  have whole : read.take scratch.bytes.length = read :=
    List.take_of_length_le (scratch.sized ▸ fits)
  simp only [front, load, whole, List.take_left]

end Scratch

namespace Buffered

variable {α σ : Type}

def plain (made : α × σ × Scratch) : α × σ := (made.1, made.2.1)

def beside (scratch : Scratch) (made : α × σ) : α × σ × Scratch := (made.1, made.2, scratch)

/-! ## Reading the tunnel -/

def receive (scratch : Scratch) (handle : Handle) : Except Errno (Option Nat) × Handle × Scratch :=
  match scratch.fill (handle.readPacket scratch.bytes.length) with
  | (.ok 0, handle, filled) => (.ok none, handle, filled)
  | (.ok count, handle, filled) => (.ok (some count), handle, filled)
  | (.error errno, handle, filled) =>
      (if errno = .again then .ok none else .error errno, handle, filled)

/-- How a read into the buffer goes, beside the same read into fresh memory: the packet
stands at the front of the buffer. -/
inductive Reads : Except Errno (Option Bytes) × Handle →
    Except Errno (Option Nat) × Handle × Scratch → Prop
  | failed (errno : Errno) (handle : Handle) (filled : Scratch) :
      Reads (.error errno, handle) (.error errno, handle, filled)
  | nothing (handle : Handle) (filled : Scratch) :
      Reads (.ok none, handle) (.ok none, handle, filled)
  | packet {packet : Bytes} {filled : Scratch} (handle : Handle)
      (front : filled.front packet.length = packet) :
      Reads (.ok (some packet), handle) (.ok (some packet.length), handle, filled)

theorem receive_reads (scratch : Scratch) (handle : Handle) :
    Reads (Tunnel.receive Tunnel.maxPacketSize handle) (receive scratch handle) := by
  unfold receive Tunnel.receive
  rw [scratch.sized]
  cases made : handle.readPacket Tunnel.maxPacketSize with
  | mk result after =>
      cases result with
      | error errno =>
          by_cases busy : errno = .again
          · simp only [Scratch.fill, if_pos busy]
            exact .nothing after scratch
          · simp only [Scratch.fill, if_neg busy]
            exact .failed errno after scratch
      | ok bytes =>
          cases bytes with
          | nil => exact .nothing after _
          | cons byte rest =>
              exact .packet after
                (scratch.front_load (Handle.readPacket_fits (congrArg Prod.fst made)))

theorem receive_some {scratch filled : Scratch} {handle after : Handle} {count : Nat}
    (made : receive scratch handle = (.ok (some count), after, filled)) :
    after.endpoint.inbound.length < handle.endpoint.inbound.length := by
  have reads := receive_reads scratch handle
  have shorter := Tunnel.receive_some Tunnel.maxPacketSize handle
  rw [made] at reads
  generalize Tunnel.receive Tunnel.maxPacketSize handle = plain at reads shorter
  cases reads with
  | packet _ _ => exact shorter _ rfl

def readTunnel (scratch : Scratch) (site : Site) : Except Failure Unit × Site × Scratch :=
  match site.relay.tunnel with
  | none => (.ok (), site, scratch)
  | some name =>
      match _ : receive scratch site.kernel.tunnelHandle with
      | (.error errno, handle, filled) => (.error (.tunnelIo errno), site.overTunnel handle, filled)
      | (.ok none, handle, filled) => (.ok (), site.overTunnel handle, filled)
      | (.ok (some count), handle, filled) =>
          let after := (site.overTunnel handle).relayPacket name (filled.front count)
          match site.relay.readMode with
          | .single => (.ok (), after, filled)
          | .drain => readTunnel filled after
termination_by site.kernel.tunnel.inbound.length
decreasing_by
  rw [Site.relayPacket_tunnel]
  exact receive_some ‹_›

theorem readTunnel_plain (scratch : Scratch) (site : Site) :
    plain (readTunnel scratch site) = site.readTunnel := by
  have unfolded := site.readTunnel_unfolds
  have reads := receive_reads scratch site.kernel.tunnelHandle
  fun_induction readTunnel scratch site with
  | case1 scratch site absent =>
      rw [unfolded, absent]
      rfl
  | case2 scratch site name present errno handle filled failed =>
      rw [present] at unfolded
      rw [failed] at reads
      generalize Tunnel.receive Tunnel.maxPacketSize site.kernel.tunnelHandle = made
        at reads unfolded
      cases reads
      exact unfolded.symm
  | case3 scratch site name present handle filled received =>
      rw [present] at unfolded
      rw [received] at reads
      generalize Tunnel.receive Tunnel.maxPacketSize site.kernel.tunnelHandle = made
        at reads unfolded
      cases reads
      exact unfolded.symm
  | case4 scratch site name present count handle filled received after mode =>
      rw [present, mode] at unfolded
      rw [received] at reads
      generalize Tunnel.receive Tunnel.maxPacketSize site.kernel.tunnelHandle = made
        at reads unfolded
      cases reads with
      | packet _ front =>
          simp only [after, front]
          exact unfolded.symm
  | case5 scratch site name present count handle filled received after mode ih =>
      rw [present, mode] at unfolded
      rw [received] at reads
      generalize Tunnel.receive Tunnel.maxPacketSize site.kernel.tunnelHandle = made
        at reads unfolded
      cases reads with
      | packet _ front =>
          -- The next read overwrites the front of what this one has left in the buffer.
          have later := ih after.readTunnel_unfolds (receive_reads filled after.kernel.tunnelHandle)
          simp only [after, front] at later ⊢
          exact later.trans unfolded.symm

/-! ## Serving a client -/

def serve (name : String) : Nat → Scratch → Circuit → Except Errno Disposition × Circuit × Scratch
  | 0, scratch, circuit =>
      (.ok .unfinished, circuit.note (.budgetSpent circuit.session.id), scratch)
  | budget + 1, scratch, circuit =>
      match scratch.fill (circuit.toLine.handle.readStream scratch.bytes.length) with
      | (.ok 0, handle, filled) => beside filled ((circuit.overStream handle).part .peerClosed)
      | (.ok count, handle, filled) =>
          match (circuit.overStream handle).forward name (filled.front count) with
          | (.error errno, after) => (.error errno, after, filled)
          | (.ok (some violation), after) => beside filled (after.part (.protocol violation))
          | (.ok none, after) => serve name budget filled after
      | (.error errno, handle, filled) =>
          if errno = .again then (.ok .idle, circuit.overStream handle, filled)
          else beside filled ((circuit.overStream handle).part (.io errno))

theorem serve_plain (name : String) (budget : Nat) (scratch : Scratch) (circuit : Circuit) :
    plain (serve name budget scratch circuit) =
      circuit.serve name Tunnel.maxPacketSize budget := by
  induction budget generalizing scratch circuit with
  | zero => rfl
  | succ budget ih =>
      unfold serve Circuit.serve
      rw [scratch.sized]
      cases made : circuit.toLine.handle.readStream Tunnel.maxPacketSize with
      | mk result handle =>
          cases result with
          | error errno =>
              simp only [Scratch.fill]
              split <;> rfl
          | ok bytes =>
              cases bytes with
              | nil => rfl
              | cons byte rest =>
                  have front := scratch.front_load
                    (Handle.readStream_fits (congrArg Prod.fst made))
                  simp only [Scratch.fill, List.length_cons] at front ⊢
                  rw [front]
                  generalize (circuit.overStream handle).forward name (byte :: rest) = forwarded
                  obtain ⟨outcome, after⟩ := forwarded
                  rcases outcome with errno | _ | violation
                  · rfl
                  · exact ih _ after
                  · rfl

def read (name : String) (budget : Nat) (scratch : Scratch) (circuit : Circuit) :
    Except Errno Disposition × Circuit × Scratch :=
  if circuit.session.connected then serve name budget scratch circuit
  else (.ok .idle, circuit, scratch)

theorem read_plain (name : String) (budget : Nat) (scratch : Scratch) (circuit : Circuit) :
    plain (read name budget scratch circuit) = circuit.read name Tunnel.maxPacketSize budget := by
  unfold read Circuit.read
  split
  · exact serve_plain name budget scratch circuit
  · rfl

def readClient (session : Session) (flags : Flags) (scratch : Scratch) (site : Site) :
    Except Failure Unit × Site × Scratch :=
  if flags.readable then
    match site.relay.tunnel with
    | none => (.ok (), site, scratch)
    | some name =>
        match read name site.relay.readBudget scratch (site.kernel.circuit session) with
        | (.error errno, circuit, filled) =>
            (.error (.tunnelIo errno), site.overCircuit circuit, filled)
        | (.ok (.closed parting), circuit, filled) =>
            (.ok (), (site.overCircuit circuit).closeSession session.id parting, filled)
        | (.ok _, circuit, filled) => (.ok (), site.overCircuit circuit, filled)
  else if Site.isBroken flags then (.ok (), site.closeSession session.id .hangUp, scratch)
  else (.ok (), site, scratch)

theorem readClient_plain (session : Session) (flags : Flags) (scratch : Scratch) (site : Site) :
    plain (readClient session flags scratch site) = site.readClient session flags := by
  unfold readClient Site.readClient
  split
  · cases site.relay.tunnel with
    | none => rfl
    | some name =>
        simp only [← read_plain name site.relay.readBudget scratch]
        generalize read name site.relay.readBudget scratch (site.kernel.circuit session) = made
        obtain ⟨outcome, circuit, filled⟩ := made
        rcases outcome with errno | _ | _ | parting <;> rfl
  · split <;> rfl

def serveClient (id : Nat) (flags : Flags) (scratch : Scratch) (site : Site) :
    Except Failure Unit × Site × Scratch :=
  match site.relay.roster.find? id with
  | none => (.ok (), site, scratch)
  | some session =>
      if flags.writable then
        match (site.kernel.line session).flush with
        | (.error parting, line) => (.ok (), (site.overLine line).closeSession id parting, scratch)
        | (.ok (), line) => readClient line.session flags scratch (site.overLine line)
      else readClient session flags scratch site

theorem serveClient_plain (id : Nat) (flags : Flags) (scratch : Scratch) (site : Site) :
    plain (serveClient id flags scratch site) = site.serveClient id flags := by
  unfold serveClient Site.serveClient
  cases site.relay.roster.find? id with
  | none => rfl
  | some session =>
      dsimp only
      split
      · generalize (site.kernel.line session).flush = made
        obtain ⟨outcome, line⟩ := made
        cases outcome with
        | error parting => rfl
        | ok value => exact readClient_plain line.session flags scratch (site.overLine line)
      · exact readClient_plain session flags scratch site

/-! ## Passes -/

def serveSource (source : Source) (flags : Flags) (scratch : Scratch) (site : Site) :
    Except Failure Unit × Site × Scratch :=
  match source with
  | .tunnel => readTunnel scratch site
  | .channel => (.ok (), site.acceptClients, scratch)
  | .client id => serveClient id flags scratch site

def serveAll : List (Source × Flags) → Scratch → Site → Except Failure Unit × Site × Scratch
  | [], scratch, site => (.ok (), site, scratch)
  | (source, flags) :: rest, scratch, site =>
      match serveSource source flags scratch site with
      | (.error failure, after, filled) => (.error failure, after, filled)
      | (.ok (), after, filled) => serveAll rest filled after

theorem serveSource_plain (source : Source) (flags : Flags) (scratch : Scratch) (site : Site) :
    plain (serveSource source flags scratch site) = site.serve source flags := by
  cases source with
  | tunnel => exact readTunnel_plain scratch site
  | channel => rfl
  | client id => exact serveClient_plain id flags scratch site

theorem serveAll_plain (sources : List (Source × Flags)) (scratch : Scratch) (site : Site) :
    plain (serveAll sources scratch site) = site.serveAll sources := by
  induction sources generalizing scratch site with
  | nil => rfl
  | cons ready rest ih =>
      obtain ⟨source, flags⟩ := ready
      have served := serveSource_plain source flags scratch site
      unfold serveAll Site.serveAll
      rw [← served]
      generalize serveSource source flags scratch site = made
      obtain ⟨outcome, after, filled⟩ := made
      cases outcome with
      | error failure => rfl
      | ok value => exact ih filled after

def pass (scratch : Scratch) (site : Site) : Except Failure Unit × Site × Scratch :=
  match site.ready with
  | (.error failure, after) => (.error failure, after, scratch)
  | (.ok sources, after) => serveAll sources scratch after

theorem pass_plain (scratch : Scratch) (site : Site) : plain (pass scratch site) = site.pass := by
  unfold pass Site.pass
  generalize site.ready = made
  obtain ⟨outcome, after⟩ := made
  cases outcome with
  | error failure => rfl
  | ok sources => exact serveAll_plain sources scratch after

def move (made : Move) (scratch : Scratch) (site : Site) : Except Failure Unit × Site × Scratch :=
  match made with
  | .world deed => beside scratch (site.move (.world deed))
  | .pass => pass scratch site
  | .shutdown => beside scratch (site.move .shutdown)

def play : List Move → Scratch → Site → Site
  | [], _, site => site
  | made :: rest, scratch, site =>
      let (_, after, filled) := move made scratch site
      play rest filled after

/-- What the buffer holds makes no difference, however it has got there. -/
theorem play_plain (moves : List Move) (scratch : Scratch) (site : Site) :
    play moves scratch site = site.play moves := by
  induction moves generalizing scratch site with
  | nil => rfl
  | cons made rest ih =>
      have moved : plain (move made scratch site) = site.move made := by
        cases made with
        | world deed => rfl
        | pass => exact pass_plain scratch site
        | shutdown => rfl
      unfold play Site.play
      rw [← moved]
      exact ih _ _

end Buffered
end PacketRelay
