import PacketRelay.Proofs.Forwarding
import PacketRelay.Proofs.Sound
import PacketRelay.Proofs.Tallies

/-!
What a relay counts can be counted again on its record: the packets that came
from the tunnel, those no frame can carry, the clients' packets handed to the
tunnel and those it took whole. Every step keeps the two counts equal, also one
that fails.
-/

namespace PacketRelay

open Kernel (Call Handle)

namespace History

def brought : Call → Bool
  | .read .tunnel _ (.ok packet) => !packet.isEmpty
  | _ => false

def oversized : Call → Bool
  | .read .tunnel _ (.ok packet) => Frame.maxLength < packet.length
  | _ => false

/-- A packet was handed to the tunnel, whatever came of it. -/
def submitted : Call → Bool
  | .write .tunnel _ result => !interrupted result
  | _ => false

def carried : Call → Bool
  | .write .tunnel packet (.ok taken) => taken = packet.length
  | _ => false

/-- A packet was handed to the tunnel, which did not take it whole or failed. -/
def refused (call : Call) : Bool :=
  submitted call && !carried call

structure Uncounted (call : Call) : Prop where
  brought : brought call = false
  oversized : oversized call = false
  submitted : submitted call = false
  carried : carried call = false

theorem Uncounted.poll (timeout : Nat) (watched : List (Kernel.Descriptor × Kernel.Flags))
    (result : Except Errno (List Kernel.Flags)) : Uncounted (.poll timeout watched result) :=
  ⟨rfl, rfl, rfl, rfl⟩

theorem Uncounted.close (descriptor : Kernel.Descriptor) : Uncounted (.close descriptor) :=
  ⟨rfl, rfl, rfl, rfl⟩

theorem Uncounted.accepting {label : Nat} {call : Call} (made : Channel.Accepting label call) :
    Uncounted call := by
  cases made <;> exact ⟨rfl, rfl, rfl, rfl⟩

theorem Uncounted.opening {call : Call} (made : call.isOpening = true) : Uncounted call := by
  unfold Call.isOpening at made
  split at made <;> first | exact ⟨rfl, rfl, rfl, rfl⟩ | cases made

variable {calls new : List Call} {sees : Call → Bool}

theorem countP_blind (blind : ∀ call ∈ new, sees call = false) :
    (new ++ calls).countP sees = calls.countP sees := by
  rw [List.countP_append, List.countP_eq_zero.mpr (by simpa using blind), Nat.zero_add]

/-- However often it is interrupted, only the last attempt of a call counts. -/
theorem countP_attempts {α : Type} (sees : Call → Bool) (call : Except Errno α → Call)
    (result : Except Errno α) (blind : sees (call (.error .interrupted)) = false)
    (interruptions : Nat) :
    (Handle.attempts call result interruptions ++ calls).countP sees =
      calls.countP sees + if sees (call result) then 1 else 0 := by
  have retried : (List.replicate interruptions (call (.error .interrupted)) ++ calls).countP sees =
      calls.countP sees :=
    countP_blind fun other member => by rw [List.eq_of_mem_replicate member, blind]
  rw [Handle.attempts, List.cons_append, List.countP_cons, retried]

theorem carried_submitted {call : Call} (taken : carried call = true) : submitted call = true := by
  unfold carried at taken
  split at taken
  · rfl
  · cases taken

theorem countP_submitted (calls : List Call) :
    calls.countP submitted = calls.countP carried + calls.countP refused := by
  induction calls with
  | nil => rfl
  | cons call rest ih =>
      rw [List.countP_cons, List.countP_cons, List.countP_cons, ih]
      cases taken : carried call with
      | true => simp [refused, taken, carried_submitted taken]; omega
      | false => simp [refused, taken]; omega

end History

open History (brought oversized submitted carried Uncounted)

/-! ## Serving a client -/

namespace Circuit

/-- The session has counted each packet that was handed to the tunnel meanwhile,
and once more each that was taken whole. -/
structure Counts (before after : Circuit) : Prop where
  received : after.session.tally.received + before.record.calls.countP submitted =
    before.session.tally.received + after.record.calls.countP submitted
  forwarded : after.session.tally.forwarded + before.record.calls.countP carried =
    before.session.tally.forwarded + after.record.calls.countP carried

variable {before middle after : Circuit}

theorem Counts.refl (circuit : Circuit) : Counts circuit circuit := ⟨rfl, rfl⟩

theorem Counts.trans (first : Counts before middle) (second : Counts middle after) :
    Counts before after where
  received := by
    have one := first.received
    have two := second.received
    omega
  forwarded := by
    have one := first.forwarded
    have two := second.forwarded
    omega

/-- The tunnel takes a packet whole exactly when it is judged to be written. -/
theorem carried_iff (packet : Bytes) (result : Except Errno Nat) :
    carried (.write .tunnel packet result) = true ↔
      Tunnel.verdict packet result = .ok .written := by
  cases result with
  | ok taken => by_cases whole : taken = packet.length <;> simp [carried, Tunnel.verdict, whole]
  | error errno =>
      by_cases busy : errno = .again
      · simp [carried, Tunnel.verdict, busy]
      · by_cases rejected : errno = .invalid <;> simp [carried, Tunnel.verdict, busy, rejected]

theorem forwardPacket_counts (name : String) (packet : Bytes) (circuit : Circuit) :
    Counts circuit (circuit.forwardPacket name packet).2 := by
  obtain ⟨last, interruptions, final, _, session, _, calls, _⟩ :=
    forwardPacket_spec name packet circuit
  generalize (Kernel.Endpoint.write packet last).1 = outcome at final session calls
  have handed : submitted (.write .tunnel packet outcome) = true := by
    simp [submitted, History.not_interrupted final]
  have received := congrArg (List.countP submitted) calls
  have forwarded := congrArg (List.countP carried) calls
  rw [History.countP_attempts submitted _ outcome rfl, if_pos handed] at received
  rw [History.countP_attempts carried _ outcome rfl] at forwarded
  by_cases written : Tunnel.verdict packet outcome = .ok .written
  · rw [written] at session
    rw [if_pos ((carried_iff packet outcome).mpr written)] at forwarded
    constructor
    · rw [session, received]
      exact Nat.add_right_comm ..
    · rw [session, forwarded]
      exact Nat.add_right_comm ..
  · have counted : (circuit.forwardPacket name packet).2.session =
        circuit.session.countReceived := by
      rw [session]
      split
      · next isWritten => exact absurd isWritten (by simpa using written)
      · rfl
    rw [if_neg (mt (carried_iff packet outcome).mp written)] at forwarded
    constructor
    · rw [counted, received]
      exact Nat.add_right_comm ..
    · rw [counted, forwarded]
      rfl

theorem forward_counts (name : String) (input : Bytes) (circuit : Circuit) :
    Counts circuit (circuit.forward name input).2 := by
  fun_induction forward name input circuit with
  | case1 circuit => exact .refl circuit
  | case2 => exact ⟨rfl, rfl⟩
  | case3 input circuit someInput decoder rest decoded ih => exact ⟨ih.received, ih.forwarded⟩
  | case4 input circuit someInput packet decoder rest decoded errno after failed =>
      have counts := forwardPacket_counts name packet
        (circuit.update fun session => { session with decoder })
      rw [failed] at counts
      exact ⟨counts.received, counts.forwarded⟩
  | case5 input circuit someInput packet decoder rest decoded after passed ih =>
      have counts := forwardPacket_counts name packet
        (circuit.update fun session => { session with decoder })
      rw [passed] at counts
      have whole := counts.trans ih
      exact ⟨whole.received, whole.forwarded⟩

theorem overStream_counts (size : Nat) (circuit : Circuit) :
    Counts circuit (circuit.overStream (circuit.toLine.handle.readStream size).2) := by
  obtain ⟨interruptions, calls, _, _⟩ := readStream_calls size circuit.toLine
  have blind {sees : Call → Bool}
      (unseen : ∀ result, sees (.read (.client circuit.session.label) size result) = false) :
      (circuit.overStream (circuit.toLine.handle.readStream size).2).record.calls.countP sees =
        circuit.record.calls.countP sees := by
    change (circuit.toLine.handle.readStream size).2.record.calls.countP sees = _
    rw [calls, History.countP_attempts sees _ _ (unseen _), unseen]
    rfl
  constructor
  · rw [blind fun _ => rfl]
    rfl
  · rw [blind fun _ => rfl]
    rfl

theorem serve_counts (name : String) (size budget : Nat) (circuit : Circuit) :
    Counts circuit (circuit.serve name size budget).2 := by
  induction budget generalizing circuit with
  | zero => exact ⟨rfl, rfl⟩
  | succ budget ih =>
      have read := overStream_counts size circuit
      unfold serve
      split
      · next handle made =>
          rw [made] at read
          exact read.trans ⟨rfl, rfl⟩
      · next bytes handle someBytes made =>
          rw [made] at read
          have forwarded := forward_counts name bytes (circuit.overStream handle)
          split
          · next errno after failed =>
              rw [failed] at forwarded
              exact read.trans forwarded
          · next violation after broken =>
              rw [broken] at forwarded
              exact (read.trans forwarded).trans ⟨rfl, rfl⟩
          · next after passed =>
              rw [passed] at forwarded
              exact (read.trans forwarded).trans (ih after)
      · next errno handle made =>
          rw [made] at read
          split
          · exact read
          · exact read.trans ⟨rfl, rfl⟩

theorem read_counts (name : String) (size budget : Nat) (circuit : Circuit) :
    Counts circuit (circuit.read name size budget).2 := by
  unfold read
  split
  · exact serve_counts name size budget circuit
  · exact .refl circuit

end Circuit

/-! ## Every step -/

namespace Site

structure Counted (site : Site) : Prop where
  received : site.relay.tally.received = site.calls.countP submitted
  forwarded : site.relay.tally.forwarded = site.calls.countP carried
  fromTunnel : site.relay.fromTunnel = site.calls.countP brought
  unframeable : site.relay.unframeable = site.calls.countP oversized
  connections : site.relay.connections = site.relay.roster.issued

namespace Counted

variable {site next : Site} {session : Session}

theorem aside (counted : site.Counted) (new : List Call) (calls : next.calls = new ++ site.calls)
    (uncounted : ∀ call ∈ new, Uncounted call)
    (received : next.relay.tally.received = site.relay.tally.received)
    (forwarded : next.relay.tally.forwarded = site.relay.tally.forwarded)
    (fromTunnel : next.relay.fromTunnel = site.relay.fromTunnel)
    (unframeable : next.relay.unframeable = site.relay.unframeable)
    (connections : next.relay.connections = next.relay.roster.issued) : next.Counted where
  received := by
    rw [received, counted.received, calls,
      History.countP_blind fun call member => (uncounted call member).submitted]
  forwarded := by
    rw [forwarded, counted.forwarded, calls,
      History.countP_blind fun call member => (uncounted call member).carried]
  fromTunnel := by
    rw [fromTunnel, counted.fromTunnel, calls,
      History.countP_blind fun call member => (uncounted call member).brought]
  unframeable := by
    rw [unframeable, counted.unframeable, calls,
      History.countP_blind fun call member => (uncounted call member).oversized]
  connections := connections

/-- The same for changes that leave the relay as it is. -/
theorem still (counted : site.Counted) (new : List Call) (calls : next.calls = new ++ site.calls)
    (uncounted : ∀ call ∈ new, Uncounted call) (relay : next.relay = site.relay) :
    next.Counted := by
  refine counted.aside new calls uncounted ?_ ?_ ?_ ?_ ?_
  all_goals rw [relay]
  exact counted.connections

theorem overLine (counted : site.Counted) (ordered : site.relay.roster.Ordered) {line : Line}
    (found : site.relay.roster.find? session.id = some session)
    (sends : Line.Sends (site.kernel.line session) line) : (site.overLine line).Counted := by
  obtain ⟨new, appended, writes⟩ := sends.only
  obtain ⟨_, _, _, _, changed⟩ := sends.session
  have sameId : line.session.id = session.id := sends.id
  have kept {count : Tally → Nat} (adds : Tally.Adds count)
      (same : count line.session.tally = count session.tally) :
      count (site.overLine line).relay.tally = count site.relay.tally := by
    have moved : count (site.overLine line).relay.tally + count session.tally =
        count site.relay.tally + count line.session.tally :=
      count_putBack adds ordered found sameId rfl rfl
    rw [same] at moved
    exact Nat.add_right_cancel moved
  refine counted.aside new appended ?_ (kept Tally.received_adds ?_) (kept Tally.forwarded_adds ?_)
    rfl rfl counted.connections
  · intro call member
    obtain ⟨bytes, result, rfl⟩ := writes call member
    exact ⟨rfl, rfl, rfl, by cases result <;> rfl⟩
  · rw [changed]
    rfl
  · rw [changed]
    rfl

/-- Serving a client counts its packets, also when the tunnel fails. -/
theorem overCircuit (counted : site.Counted) (ordered : site.relay.roster.Ordered)
    {circuit : Circuit} (found : site.relay.roster.find? session.id = some session)
    (receives : Circuit.Receives (site.kernel.circuit session) circuit)
    (counts : Circuit.Counts (site.kernel.circuit session) circuit) :
    (site.overCircuit circuit).Counted := by
  obtain ⟨new, appended, own⟩ := receives.only
  have sameId : circuit.session.id = session.id := receives.id
  have blind {sees : Call → Bool}
      (reads : ∀ size result, sees (.read (.client session.label) size result) = false)
      (writes : ∀ packet result, sees (.write .tunnel packet result) = false) :
      (site.overCircuit circuit).calls.countP sees = site.calls.countP sees := by
    change circuit.record.calls.countP sees = _
    rw [appended]
    apply History.countP_blind
    intro call member
    rcases own call member with ⟨size, result, rfl⟩ | ⟨packet, result, rfl⟩
    · exact reads size result
    · exact writes packet result
  have put {count : Tally → Nat} (adds : Tally.Adds count) :
      count (site.overCircuit circuit).relay.tally + count session.tally =
        count site.relay.tally + count circuit.session.tally :=
    count_putBack adds ordered found sameId rfl rfl
  constructor
  case received =>
    have before := counted.received
    have moved := put Tally.received_adds
    have handed : circuit.session.tally.received + site.calls.countP submitted =
        session.tally.received + (site.overCircuit circuit).calls.countP submitted :=
      counts.received
    omega
  case forwarded =>
    have before := counted.forwarded
    have moved := put Tally.forwarded_adds
    have taken : circuit.session.tally.forwarded + site.calls.countP carried =
        session.tally.forwarded + (site.overCircuit circuit).calls.countP carried :=
      counts.forwarded
    omega
  case fromTunnel =>
    rw [blind (fun _ _ => rfl) (fun _ _ => rfl)]
    exact counted.fromTunnel
  case unframeable =>
    rw [blind (fun _ _ => rfl) (fun _ _ => rfl)]
    exact counted.unframeable
  case connections => exact counted.connections

theorem receive_calls {size : Nat} {received : Except Errno (Option Bytes)} {handle : Handle}
    (made : Tunnel.receive size site.kernel.tunnelHandle = (received, handle)) :
    ∃ result, received = Tunnel.gain result ∧ ∀ sees : Call → Bool,
      sees (.read .tunnel size (.error .interrupted)) = false →
        (site.overTunnel handle).calls.countP sees =
          site.calls.countP sees + if sees (.read .tunnel size result) then 1 else 0 := by
  obtain ⟨result, interruptions, _, gained, record⟩ := Tunnel.receive_record made
  refine ⟨result, gained, fun sees blind => ?_⟩
  change handle.record.calls.countP sees = _
  rw [record]
  exact History.countP_attempts sees _ result blind interruptions

theorem lacking (counted : site.Counted) {size : Nat} {received : Except Errno (Option Bytes)}
    {handle : Handle} (made : Tunnel.receive size site.kernel.tunnelHandle = (received, handle))
    (nothing : ∀ packet, received ≠ .ok (some packet)) : (site.overTunnel handle).Counted := by
  obtain ⟨result, rfl, calls⟩ := receive_calls made
  have unseen {sees : Call → Bool} (empty : sees (.read .tunnel size (.ok [])) = false)
      (failed : ∀ errno, sees (.read .tunnel size (.error errno)) = false) :
      (site.overTunnel handle).calls.countP sees = site.calls.countP sees := by
    rw [calls sees (failed _)]
    rcases Tunnel.gain_ne_some nothing with rfl | ⟨errno, rfl⟩
    · simp [empty]
    · simp [failed]
  constructor
  case received =>
    rw [unseen rfl fun _ => rfl]
    exact counted.received
  case forwarded =>
    rw [unseen rfl fun _ => rfl]
    exact counted.forwarded
  case fromTunnel =>
    rw [unseen rfl fun _ => rfl]
    exact counted.fromTunnel
  case unframeable =>
    rw [unseen rfl fun _ => rfl]
    exact counted.unframeable
  case connections => exact counted.connections

theorem give (counted : site.Counted) {size : Nat} {packet : Bytes} {handle : Handle}
    (made : Tunnel.receive size site.kernel.tunnelHandle = (.ok (some packet), handle)) :
    ((site.give handle).calls.countP submitted = site.relay.tally.received ∧
      (site.give handle).calls.countP carried = site.relay.tally.forwarded) ∧
      (site.give handle).calls.countP brought = site.relay.fromTunnel + 1 ∧
      (site.give handle).calls.countP oversized =
        site.relay.unframeable + if Frame.maxLength < packet.length then 1 else 0 := by
  obtain ⟨result, gained, calls⟩ := receive_calls made
  obtain ⟨rfl, someBytes⟩ := Tunnel.gain_eq_some gained.symm
  have calls : ∀ sees : Call → Bool, sees (.read .tunnel size (.error .interrupted)) = false →
      (site.give handle).calls.countP sees =
        site.calls.countP sees + if sees (.read .tunnel size (.ok packet)) then 1 else 0 := calls
  refine ⟨⟨?_, ?_⟩, ?_, ?_⟩
  · rw [calls submitted rfl, counted.received]
    rfl
  · rw [calls carried rfl, counted.forwarded]
    rfl
  · rw [calls brought rfl, counted.fromTunnel, if_pos (by simpa [brought] using someBytes)]
  · rw [calls oversized rfl, counted.unframeable]
    simp [oversized]

/-- A packet from the tunnel that is refused is too long, since it is not empty. -/
theorem encode_refused {size : Nat} {packet : Bytes} {handle : Handle} {violation : Frame.Violation}
    (made : Tunnel.receive size site.kernel.tunnelHandle = (.ok (some packet), handle))
    (illegal : Frame.encode packet = .error violation) : Frame.maxLength < packet.length := by
  obtain ⟨result, gained, _⟩ := receive_calls made
  obtain ⟨_, someBytes⟩ := Tunnel.gain_eq_some gained.symm
  refine Nat.not_le.mp fun fits => ?_
  have legal : Frame.Legal packet := ⟨List.length_pos_iff.mpr someBytes, fits⟩
  rw [(Frame.encode_eq_ok_iff packet _).mpr ⟨legal, rfl⟩] at illegal
  cases illegal

theorem accept (counted : site.Counted) {result : Except Errno (Option Nat)} {kernel : Kernel}
    (made : site.relay.channel.accept site.kernel = (result, kernel)) :
    Counted { site with kernel } := by
  obtain ⟨_, _, new, taking, _, always⟩ :=
    Channel.accept_spec site.relay.channel site.kernel.knocks site.kernel.faults.resize
  rw [always site.kernel rfl rfl] at made
  cases made
  obtain ⟨label, accepting⟩ := taking.accepting
  exact counted.still new.calls rfl (fun call member => .accepting (accepting call member)) rfl

theorem enroll (counted : site.Counted) (label : Nat) : (site.enroll label).Counted :=
  counted.aside [] rfl (by simp) (count_enroll Tally.received_adds label site)
    (count_enroll Tally.forwarded_adds label site) rfl rfl
    (congrArg (· + 1) counted.connections)

theorem closeChannel (counted : site.Counted) : site.closeChannel.Counted := by
  obtain ⟨closed, left, new, own, _, made⟩ := site.closeChannel_spec
  rw [made]
  refine counted.aside new.calls rfl ?_ rfl rfl rfl rfl counted.connections
  intro call member
  rcases own call member with rfl | ⟨path, failure, rfl⟩
  · exact .close _
  · exact ⟨rfl, rfl, rfl, rfl⟩

end Counted
end Site

/-! ## Turns and failures -/

open Site (Counted)

theorem Turn.counted (stage next : Stage) (turn : Turn stage next) (sound : stage.Sound)
    (counted : stage.site.Counted) : next.site.Counted := by
  cases turn with
  | noted | hungUp => exact counted.still [] rfl (by simp) rfl
  | marked => exact counted.aside [] rfl (by simp) rfl rfl rfl rfl counted.connections
  | polled site =>
      obtain ⟨_, _, _, _, result, polled⟩ := Kernel.poll_frame site.relay.pollTimeout
        ((Site.watched site.relay).map (·.2)) site.kernel
      exact counted.still [.poll _ _ result] (congrArg (·.record.calls) polled)
        (by simp [Uncounted.poll]) rfl
  | idle received => exact counted.lacking received (by simp)
  | @took site packet handle received legal =>
      obtain ⟨⟨submitted, carried⟩, brought, oversized⟩ := counted.give received
      -- What can be framed is not oversized, and all that is handed on is not empty.
      have fits := ((Frame.encode_eq_ok_iff packet _).mp legal).1.2
      rw [if_neg (Nat.not_lt.mpr fits)] at oversized
      exact ⟨submitted.symm, carried.symm, brought.symm, oversized.symm, counted.connections⟩
  | @dropped site packet handle violation received illegal =>
      obtain ⟨⟨submitted, carried⟩, brought, oversized⟩ := counted.give received
      have long := Counted.encode_refused received illegal
      rw [if_pos long] at oversized
      exact ⟨submitted.symm, carried.symm, brought.symm, oversized.symm, counted.connections⟩
  | offered found sent => exact counted.overLine sound.ordered found (.of_send sent)
  | flushed found flush => exact counted.overLine sound.ordered found (.of_flush flush)
  | broke found flush => exact counted.overLine sound.ordered found (.of_flush flush)
  | @read site session name disposition circuit found served =>
      have counts := Circuit.read_counts name Tunnel.maxPacketSize site.relay.readBudget
        (site.kernel.circuit session)
      rw [served] at counts
      exact counted.overCircuit sound.ordered found (.of_read served) counts
  | @left site session parting leaving found =>
      exact counted.aside [.close (.client session.label)] rfl (by simp [Uncounted.close])
        (Site.count_leave Tally.received_adds parting found)
        (Site.count_leave Tally.forwarded_adds parting found) rfl rfl counted.connections
  | accepted taken => exact (counted.accept taken).enroll _
  | refused taken => exact counted.accept taken
  | closedTunnel site =>
      unfold Site.closeTunnel
      split
      · exact counted
      · exact counted.aside [.close .tunnel] rfl (by simp [Uncounted.close]) rfl rfl rfl rfl
          counted.connections
  | @dismissed site session others sessions =>
      exact counted.aside [.close (.client session.label)] rfl (by simp [Uncounted.close])
        (Site.count_dismiss Tally.received_adds sessions)
        (Site.count_dismiss Tally.forwarded_adds sessions) rfl rfl counted.connections
  | closedChannel site => exact counted.closeChannel

theorem Fatal.counted (site : Site) (failure : Failure) (after : Site)
    (fatal : Fatal site failure after) (sound : Stage.Sound (.rest site))
    (counted : site.Counted) : after.Counted := by
  cases fatal with
  | @poll errno kernel failed serious =>
      obtain ⟨_, _, _, _, result, polled⟩ := Kernel.poll_frame site.relay.pollTimeout
        ((Site.watched site.relay).map (·.2)) site.kernel
      rw [failed] at polled
      exact counted.still [.poll _ _ result] (congrArg (·.record.calls) polled)
        (by simp [Uncounted.poll]) rfl
  | receive failed => exact counted.lacking failed (by simp)
  | @transmit session name errno circuit found failed =>
      have counts := Circuit.read_counts name Tunnel.maxPacketSize site.relay.readBudget
        (site.kernel.circuit session)
      rw [failed] at counts
      exact counted.overCircuit sound.ordered found (.of_read failed) counts

theorem counted_kept : Site.Kept fun stage => stage.site.Counted where
  turn := Turn.counted
  deed site deed _ counted :=
    counted.still [] (congrArg Record.calls (Kernel.undergo_record deed site.kernel)) (by simp) rfl

namespace Site

theorem Opened.counted {site : Site} (opened : site.Opened) : site.Counted := by
  have uncounted : ∀ call ∈ site.calls, Uncounted call := fun call member =>
    .opening (opened.calls call member)
  obtain ⟨name, channel, settings, _, relay⟩ := opened.relay
  constructor
  case received =>
    rw [List.countP_eq_zero.mpr fun call member => by simp [(uncounted call member).submitted],
      relay]
    rfl
  case forwarded =>
    rw [List.countP_eq_zero.mpr fun call member => by simp [(uncounted call member).carried],
      relay]
    rfl
  case fromTunnel =>
    rw [List.countP_eq_zero.mpr fun call member => by simp [(uncounted call member).brought],
      relay]
    rfl
  case unframeable =>
    rw [List.countP_eq_zero.mpr fun call member => by simp [(uncounted call member).oversized],
      relay]
    rfl
  case connections =>
    rw [relay]
    rfl

/-- Whatever happens, and whether passes fail or not, the counters agree with the record. -/
theorem Opened.play_counted {site : Site} (opened : site.Opened) (moves : List Move) :
    Stage.Sound (.rest (site.play moves)) ∧ (site.play moves).Counted :=
  play_kept counted_kept moves
    (.inr fun site failure after fatal sound counted =>
      fatal.counted site failure after sound counted)
    ⟨opened.sound, opened.counted⟩

end Site
end PacketRelay
