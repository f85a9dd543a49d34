import PacketRelay.Proofs.History
import PacketRelay.Proofs.Retrying
import PacketRelay.Session.Service

/-!
One packet to the tunnel or from it, and what serving a readable client may
change: the receiving side of its session, its stream and the tunnel. Every
call is a read from that client or a write to the tunnel.
-/

namespace PacketRelay

open Kernel (Call Endpoint Handle Descriptor)

namespace Tunnel

def verdict (packet : Bytes) : Except Errno Nat → Except Errno Delivery
  | .ok taken => if taken = packet.length then .ok .written else .ok .dropped
  | .error errno =>
      if errno = .again then .ok .dropped
      else if errno = .invalid then .ok .dropped
      else .error errno

def remarks (name : String) (packet : Bytes) : Except Errno Nat → List Log.Notice
  | .ok taken =>
      if taken = packet.length then [.tunnelTook name packet]
      else [.shortWrite name taken packet.length]
  | .error errno =>
      if errno = .again then [.tunnelBusy name packet.length]
      else if errno = .invalid then [.packetRejected name packet errno]
      else []

theorem remarks_plain (name : String) (packet : Bytes) (result : Except Errno Nat) :
    ∀ notice ∈ remarks name packet result, notice.isParting = false := by
  intro notice member
  unfold remarks at member
  split at member
  · split at member
    · rw [List.mem_singleton.mp member]
      rfl
    · rw [List.mem_singleton.mp member]
      rfl
  · split at member
    · rw [List.mem_singleton.mp member]
      rfl
    · split at member
      · rw [List.mem_singleton.mp member]
        rfl
      · cases member

theorem transmit_eq (name : String) (packet : Bytes) (handle : Handle) :
    transmit name packet handle =
      (verdict packet (handle.write packet).1,
        { (handle.write packet).2 with
          record := Record.onto ⟨[], remarks name packet (handle.write packet).1⟩
            (handle.write packet).2.record }) := by
  unfold transmit
  split
  · next taken after made =>
      rw [made]
      by_cases whole : taken = packet.length <;>
        simp [verdict, remarks, whole, Handle.note, Record.note, Record.onto]
  · next errno after made =>
      rw [made]
      by_cases busy : errno = .again
      · simp [verdict, remarks, busy, Handle.note, Record.note, Record.onto]
      · by_cases rejected : errno = .invalid
        · subst rejected
          simp [verdict, remarks, busy, Handle.note, Record.note, Record.onto]
        · simp [verdict, remarks, busy, rejected, Record.onto]

/-- A packet is written as a whole, again as long as the write is interrupted. -/
theorem transmit_spec (name : String) (packet : Bytes) (endpoint : Endpoint) :
    ∃ last interruptions, (Endpoint.write packet last).1 ≠ .error .interrupted ∧
      ∀ record, transmit name packet ⟨.tunnel, endpoint, record⟩ =
        (verdict packet (Endpoint.write packet last).1,
          ⟨.tunnel, (Endpoint.write packet last).2,
            Record.onto ⟨Handle.attempts (.write .tunnel packet) (Endpoint.write packet last).1
              interruptions, remarks name packet (Endpoint.write packet last).1⟩ record⟩) := by
  obtain ⟨last, interruptions, final, outcome⟩ := Handle.write_spec packet .tunnel endpoint
  refine ⟨last, interruptions, final, ?_⟩
  intro record
  rw [transmit_eq, outcome]
  simp [Record.onto, Record.ofCalls]

def gain : Except Errno Bytes → Except Errno (Option Bytes)
  | .ok [] => .ok none
  | .ok packet => .ok (some packet)
  | .error errno => if errno = .again then .ok none else .error errno

theorem receive_eq (size : Nat) (handle : Handle) :
    receive size handle = (gain (handle.readPacket size).1, (handle.readPacket size).2) := by
  unfold receive
  split <;> simp_all [gain]

theorem receive_spec (size : Nat) (endpoint : Endpoint) :
    ∃ last interruptions, (Endpoint.readPacket size last).1 ≠ .error .interrupted ∧
      ∀ record, receive size ⟨.tunnel, endpoint, record⟩ =
        (gain (Endpoint.readPacket size last).1, ⟨.tunnel, (Endpoint.readPacket size last).2,
          (Record.ofCalls (Handle.attempts (.read .tunnel size) (Endpoint.readPacket size last).1
            interruptions)).onto record⟩) := by
  obtain ⟨last, interruptions, final, outcome⟩ := Handle.readPacket_spec size .tunnel endpoint
  refine ⟨last, interruptions, final, ?_⟩
  intro record
  rw [receive_eq, outcome]

theorem receive_record {size : Nat} {endpoint : Endpoint} {record : Record}
    {received : Except Errno (Option Bytes)} {handle : Handle}
    (made : receive size ⟨.tunnel, endpoint, record⟩ = (received, handle)) :
    ∃ result interruptions, result ≠ .error .interrupted ∧ received = gain result ∧
      handle.record = (Record.ofCalls
        (Handle.attempts (.read .tunnel size) result interruptions)).onto record := by
  obtain ⟨last, interruptions, final, outcome⟩ := receive_spec size endpoint
  rw [outcome] at made
  cases made
  exact ⟨_, interruptions, final, rfl, rfl⟩

theorem gain_eq_some {result : Except Errno Bytes} {packet : Bytes}
    (gained : gain result = .ok (some packet)) : result = .ok packet ∧ packet ≠ [] := by
  unfold gain at gained
  split at gained
  · cases gained
  · next someBytes =>
      cases gained
      exact ⟨rfl, someBytes⟩
  · split at gained <;> cases gained

theorem gain_ne_some {result : Except Errno Bytes}
    (lacking : ∀ packet, gain result ≠ .ok (some packet)) :
    result = .ok [] ∨ ∃ errno, result = .error errno := by
  cases result with
  | error errno => exact .inr ⟨errno, rfl⟩
  | ok bytes =>
      cases bytes with
      | nil => exact .inl rfl
      | cons byte rest => exact absurd rfl (lacking (byte :: rest))

end Tunnel

namespace Circuit

/-- Only the receiving side of the session has changed, only reads from its client
and writes to the tunnel have been made, and no one has been reported to part. -/
structure Receives (before after : Circuit) : Prop where
  session : ∃ decoder connected received forwarded, after.session =
    { before.session with
      decoder, connected, tally := { before.session.tally with received, forwarded } }
  only : ∃ new, after.record.calls = new ++ before.record.calls ∧ ∀ call ∈ new,
    (∃ size result, call = .read (.client before.session.label) size result) ∨
      ∃ packet result, call = .write .tunnel packet result
  notices : ∃ news, after.record.notices = news ++ before.record.notices ∧
    ∀ notice ∈ news, notice.isParting = false

theorem Receives.refl (circuit : Circuit) : Receives circuit circuit where
  session := ⟨_, _, _, _, rfl⟩
  only := ⟨[], rfl, by simp⟩
  notices := ⟨[], rfl, by simp⟩

theorem Receives.label {before after : Circuit} (receives : Receives before after) :
    after.session.label = before.session.label := by
  obtain ⟨_, _, _, _, session⟩ := receives.session
  rw [session]

theorem Receives.id {before after : Circuit} (receives : Receives before after) :
    after.session.id = before.session.id := by
  obtain ⟨_, _, _, _, session⟩ := receives.session
  rw [session]

theorem Receives.trans {before middle after : Circuit} (first : Receives before middle)
    (second : Receives middle after) : Receives before after where
  session := by
    obtain ⟨_, _, _, _, one⟩ := first.session
    obtain ⟨decoder, connected, received, forwarded, two⟩ := second.session
    exact ⟨decoder, connected, received, forwarded, by rw [two, one]⟩
  only := by
    obtain ⟨one, appended, own⟩ := first.only
    obtain ⟨two, appendedLater, ownLater⟩ := second.only
    refine ⟨two ++ one, by rw [appendedLater, appended, List.append_assoc], ?_⟩
    intro call member
    rcases List.mem_append.mp member with later | sooner
    · rw [← first.label]
      exact ownLater call later
    · exact own call sooner
  notices := by
    obtain ⟨one, appended, plain⟩ := first.notices
    obtain ⟨two, appendedLater, plainLater⟩ := second.notices
    refine ⟨two ++ one, by rw [appendedLater, appended, List.append_assoc], ?_⟩
    intro notice member
    rcases List.mem_append.mp member with later | sooner
    · exact plainLater notice later
    · exact plain notice sooner

theorem Receives.update (circuit : Circuit) (change : Session → Session)
    (receiving : ∃ decoder connected received forwarded, change circuit.session =
      { circuit.session with
        decoder, connected, tally := { circuit.session.tally with received, forwarded } }) :
    Receives circuit (circuit.update change) where
  session := receiving
  only := ⟨[], rfl, by simp⟩
  notices := ⟨[], rfl, by simp⟩

/-- Forwarding a packet counts it and writes it to the tunnel; it counts once
more if the tunnel took it whole. -/
theorem forwardPacket_spec (name : String) (packet : Bytes) (circuit : Circuit) :
    ∃ last interruptions, (Endpoint.write packet last).1 ≠ .error .interrupted ∧
      (circuit.forwardPacket name packet).1 =
        (Tunnel.verdict packet (Endpoint.write packet last).1).map (fun _ => ()) ∧
      (circuit.forwardPacket name packet).2.session =
        (if (Tunnel.verdict packet (Endpoint.write packet last).1) matches .ok .written then
          circuit.session.countReceived.countForwarded else circuit.session.countReceived) ∧
      (circuit.forwardPacket name packet).2.stream = circuit.stream ∧
      (circuit.forwardPacket name packet).2.record.calls =
        Handle.attempts (.write .tunnel packet) (Endpoint.write packet last).1 interruptions ++
          circuit.record.calls ∧
      (circuit.forwardPacket name packet).2.record.notices =
        Tunnel.remarks name packet (Endpoint.write packet last).1 ++ circuit.record.notices := by
  obtain ⟨last, interruptions, final, outcome⟩ :=
    Tunnel.transmit_spec name packet circuit.tunnel
  have made : Tunnel.transmit name packet circuit.countReceived.tunnelHandle = _ :=
    outcome circuit.record
  refine ⟨last, interruptions, final, ?_⟩
  unfold forwardPacket
  rw [made]
  cases judged : Tunnel.verdict packet (Endpoint.write packet last).1 with
  | error errno => exact ⟨rfl, rfl, rfl, rfl, rfl⟩
  | ok delivery => cases delivery <;> exact ⟨rfl, rfl, rfl, rfl, rfl⟩

theorem forwardPacket_receives (name : String) (packet : Bytes) (circuit : Circuit) :
    Receives circuit (circuit.forwardPacket name packet).2 := by
  obtain ⟨last, interruptions, final, result, session, stream, calls, notices⟩ :=
    forwardPacket_spec name packet circuit
  refine ⟨?_, ⟨_, calls, ?_⟩, _, notices, Tunnel.remarks_plain name packet _⟩
  · rw [session]
    split
    · exact ⟨_, _, _, _, rfl⟩
    · exact ⟨_, _, _, _, rfl⟩
  · intro call member
    rcases List.mem_cons.mp member with rfl | retried
    · exact .inr ⟨_, _, rfl⟩
    · exact .inr ⟨_, _, List.eq_of_mem_replicate retried⟩

theorem forward_receives (name : String) (input : Bytes) (circuit : Circuit) :
    Receives circuit (circuit.forward name input).2 := by
  fun_induction forward name input circuit with
  | case1 circuit => exact .refl circuit
  | case2 input circuit someInput violation decoder rest decoded =>
      exact .update circuit _ ⟨_, _, _, _, rfl⟩
  | case3 input circuit someInput decoder rest decoded ih =>
      exact .trans (.update circuit _ ⟨_, _, _, _, rfl⟩) ih
  | case4 input circuit someInput packet decoder rest decoded errno after failed =>
      have forwarded := forwardPacket_receives name packet
        (circuit.update fun session => { session with decoder })
      rw [failed] at forwarded
      exact .trans (.update circuit _ ⟨_, _, _, _, rfl⟩) forwarded
  | case5 input circuit someInput packet decoder rest decoded after passed ih =>
      have forwarded := forwardPacket_receives name packet
        (circuit.update fun session => { session with decoder })
      rw [passed] at forwarded
      exact .trans (.update circuit _ ⟨_, _, _, _, rfl⟩) (.trans forwarded ih)

theorem readStream_calls (size : Nat) (line : Line) :
    ∃ interruptions, (line.handle.readStream size).2.record.calls =
        Handle.attempts (.read (.client line.session.label) size) (line.handle.readStream size).1
          interruptions ++ line.record.calls ∧
      (line.handle.readStream size).2.record.notices = line.record.notices ∧
      (line.handle.readStream size).1 ≠ .error .interrupted := by
  obtain ⟨last, interruptions, final, outcome⟩ :=
    Handle.readStream_spec size (.client line.session.label) line.stream
  have made : line.handle.readStream size = _ := outcome line.record
  rw [made]
  exact ⟨interruptions, rfl, rfl, final⟩

theorem overStream_receives (size : Nat) (circuit : Circuit) :
    Receives circuit (circuit.overStream (circuit.toLine.handle.readStream size).2) := by
  obtain ⟨interruptions, calls, notices, final⟩ := readStream_calls size circuit.toLine
  refine ⟨⟨_, _, _, _, rfl⟩, ⟨_, calls, ?_⟩, [], notices, by simp⟩
  intro call member
  rcases List.mem_cons.mp member with rfl | retried
  · exact .inl ⟨_, _, rfl⟩
  · exact .inl ⟨_, _, List.eq_of_mem_replicate retried⟩

theorem part_receives (parting : Parting) (circuit : Circuit) :
    Receives circuit (circuit.part parting).2 :=
  .update circuit _ ⟨_, _, _, _, rfl⟩

theorem serve_receives (name : String) (size budget : Nat) (circuit : Circuit) :
    Receives circuit (circuit.serve name size budget).2 := by
  induction budget generalizing circuit with
  | zero =>
      exact ⟨⟨_, _, _, _, rfl⟩, ⟨[], rfl, by simp⟩, [.budgetSpent circuit.session.id], rfl,
        by simp [Log.Notice.isParting]⟩
  | succ budget ih =>
      have read := overStream_receives size circuit
      unfold serve
      split
      · next handle made =>
          rw [made] at read
          exact read.trans (part_receives _ _)
      · next bytes handle someBytes made =>
          rw [made] at read
          have forwarded := forward_receives name bytes (circuit.overStream handle)
          split
          · next errno after failed =>
              rw [failed] at forwarded
              exact read.trans forwarded
          · next violation after broken =>
              rw [broken] at forwarded
              exact (read.trans forwarded).trans (part_receives _ _)
          · next after passed =>
              rw [passed] at forwarded
              exact (read.trans forwarded).trans (ih after)
      · next errno handle made =>
          rw [made] at read
          split
          · exact read
          · exact read.trans (part_receives _ _)

theorem read_receives (name : String) (size budget : Nat) (circuit : Circuit) :
    Receives circuit (circuit.read name size budget).2 := by
  unfold read
  split
  · exact serve_receives name size budget circuit
  · exact .refl circuit

theorem Receives.of_read {name : String} {size budget : Nat} {circuit after : Circuit}
    {result : Except Errno Disposition} (made : circuit.read name size budget = (result, after)) :
    Receives circuit after := by
  have receives := read_receives name size budget circuit
  rwa [made] at receives

end Circuit
end PacketRelay
