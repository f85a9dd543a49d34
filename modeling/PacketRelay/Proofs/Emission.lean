import PacketRelay.Proofs.Buffering
import PacketRelay.Proofs.Chunking
import PacketRelay.Proofs.Independence
import PacketRelay.Proofs.Reaching
import PacketRelay.Proofs.Singly

/-!
What the tunnel gives, packet by packet. A read has room for one byte more than a frame.
Main statement: so a packet goes out whole, to everyone in turn, or is dropped and
counted; a read that brings nothing ends the serving, and nothing that was read earlier
gets into a frame.
-/

namespace PacketRelay

open Kernel (Arrival Call)
open Kernel.Arrival (given packet? ungiven)
open PacketRelay.Frame (Decoder)
open Roster (Apart Parted Turns verdicts)

namespace Frame.Decoder

theorem decode_wrap {packet : Bytes} (legal : Legal packet) :
    fresh.decode (wrap packet) = ⟨.ok (some packet), fresh, []⟩ := by
  have bound := legal.2
  have size : packet.length < 4294967296 := by
    simp only [maxLength] at bound
    omega
  have header : (wrap packet).take headerLength = Bytes.ofWord packet.length := by
    simp [wrap, headerLength, Bytes.ofWord]
  have body : (wrap packet).drop headerLength = packet := by
    simp [wrap, headerLength, Bytes.ofWord]
  have complete : ¬ (Bytes.ofWord packet.length).length < headerLength := Nat.lt_irrefl 4
  have checked := (checkLength_eq_ok_iff packet.length).mpr legal
  simp only [fresh, decode, List.length_nil, Nat.sub_zero, List.nil_append, header, body,
    if_neg complete, Bytes.toNat_ofWord _ size, checked, fill_eq, if_neg (Nat.lt_irrefl _)]
  simp

theorem drain_wrap {packet : Bytes} (legal : Legal packet) :
    fresh.drain (wrap packet) = ⟨[packet], none, fresh, []⟩ := by
  have someFrame : wrap packet ≠ [] := by simp [wrap, Bytes.ofWord]
  rw [drain_unfolds, if_neg someFrame, decode_wrap legal]
  dsimp only
  rw [drain_unfolds, if_pos rfl]

end Frame.Decoder

def History.OnlyReads (earlier later : List Call) : Prop :=
  ∃ reads, later = reads ++ earlier ∧
    ∀ call ∈ reads, ∃ result, call = .read .tunnel Tunnel.maxPacketSize result

open History (OnlyReads)

namespace Site

/-- From `before` the packet has been read and counted, and then everyone on the roster
has been handed its frame. -/
structure Shares (packet frame : Bytes) (before start : Site) (offers : List (Session × Sending))
    (offered : Kernel) (after : Site) : Prop where
  encoded : Frame.encode packet = .ok frame
  carries : Decoder.fresh.drain frame = ⟨[packet], none, .fresh, []⟩
  relay : start.relay = { before.relay with fromTunnel := before.relay.fromTunnel + 1 }
  clients : start.kernel.clients = before.kernel.clients
  calls : OnlyReads before.calls start.calls
  turns : Turns frame before.relay.roster.sessions start.kernel offers offered
  /-- Each turn is as it would be if there were no one else. Those whose stream it closes
  leave, and nothing more is done. -/
  parted : before.relay.roster.Distinct →
    (offers = verdicts frame before.kernel before.relay.roster.sessions ∧
      Apart frame before.relay.roster.sessions start.kernel offered) ∧
    ∃ report, Parted offers before.relay.roster after.relay.roster report ∧
      after.calls = (report.closed.map fun leaver => Call.close (.client leaver.1.label)).reverse ++
        offered.record.calls
  kernel : after.kernel = { offered with record := after.kernel.record }
  drops : after.relay.totals.tunnelDrops = before.relay.totals.tunnelDrops

/-- A packet has been read and counted as dropped. No client has seen anything of it. -/
structure Discards (before after : Site) : Prop where
  roster : after.relay.roster = before.relay.roster
  clients : after.kernel.clients = before.kernel.clients
  calls : OnlyReads before.calls after.calls
  drops : after.relay.totals.tunnelDrops = before.relay.totals.tunnelDrops + 1

/-- The packet, whatever its length, has been taken off the queue and dealt with. -/
structure Deals (packet : Bytes) (before after : Site) : Prop where
  queue : ∃ interruptions, before.kernel.tunnel.inbound =
    List.replicate interruptions (.failure .interrupted) ++ .data packet ::
      after.kernel.tunnel.inbound
  fromTunnel : after.relay.totals.fromTunnel = before.relay.totals.fromTunnel + 1
  fitting : packet.length ≤ 65535 →
    ∃ frame start offers offered, Shares packet frame before start offers offered after
  overlong : 65536 ≤ packet.length → Discards before after
  distinct : before.relay.roster.Distinct → after.relay.roster.Distinct

inductive Emits : List Bytes → Site → Site → Prop
  | nothing (site : Site) : Emits [] site site
  | packet {packet : Bytes} {later : List Bytes} {before middle after : Site}
      (deals : Deals packet before middle) (rest : Emits later middle after) :
      Emits (packet :: later) before after

/-- At most some reads have been made that brought no packet. -/
structure Rests (before after : Site) : Prop where
  relay : after.relay = before.relay
  clients : after.kernel.clients = before.kernel.clients
  calls : OnlyReads before.calls after.calls

def Gives (packets : List Bytes) (left : List Arrival) (before after : Site) : Prop :=
  ∃ last, Emits packets before last ∧ Rests last after ∧ after.kernel.tunnel.inbound = left

theorem Rests.refl (site : Site) : Rests site site := ⟨rfl, rfl, [], rfl, by simp⟩

variable {site : Site} {received : Except Errno (Option Bytes)} {handle : Kernel.Handle}

theorem receive_rests
    (made : Tunnel.receive Tunnel.maxPacketSize site.kernel.tunnelHandle = (received, handle)) :
    Rests site (site.overTunnel handle) := by
  obtain ⟨result, interruptions, _, _, record⟩ := Tunnel.receive_record made
  refine ⟨rfl, rfl, _, congrArg Record.calls record, ?_⟩
  intro call member
  rcases List.mem_cons.mp member with rfl | retried
  · exact ⟨_, rfl⟩
  · exact ⟨_, List.eq_of_mem_replicate retried⟩

theorem fanOut_tunnelDrops (frame : Bytes) (site : Site) :
    (site.fanOut frame).relay.totals.tunnelDrops = site.relay.totals.tunnelDrops := by
  have received := fanOut_kept Tally.received_adds (fun _ _ _ => rfl) frame site
  have forwarded := fanOut_kept Tally.forwarded_adds (fun _ _ _ => rfl) frame site
  obtain ⟨_, _, _, _, parts, _⟩ := site.fanOut_parts frame
  have unframeable : (site.fanOut frame).relay.unframeable = site.relay.unframeable := by rw [parts]
  simp only [Relay.totals, received, forwarded, unframeable]

/-- After a broadcast, those who leave have their streams closed, and that is all. -/
theorem fanOut_broadcast (frame : Bytes) (site : Site) :
    let made := site.relay.roster.broadcast frame site.kernel
    let after := site.fanOut frame
    after.relay.roster = made.2.1 ∧
      after.kernel = { made.2.2 with record := after.kernel.record } ∧
      after.calls = (made.1.closed.map fun leaver => Call.close (.client leaver.1.label)).reverse ++
        made.2.2.record.calls := by
  unfold fanOut
  generalize site.relay.roster.broadcast frame site.kernel = made
  obtain ⟨report, roster, kernel⟩ := made
  have retires (noted : Site) := retireAll_parts report.closed noted
  dsimp only
  split
  · obtain ⟨retired, record, parts, closes⟩ := retires ⟨{ site.relay with roster }, kernel⟩
    rw [parts]
    exact ⟨rfl, rfl, closes⟩
  · obtain ⟨retired, record, parts, closes⟩ :=
      retires (note ⟨{ site.relay with roster }, kernel⟩ (.clientsBusy report.dropped))
    rw [parts]
    exact ⟨rfl, rfl, closes⟩

theorem fanOut_parted (frame : Bytes) {site : Site} (distinct : site.relay.roster.Distinct) :
    let sessions := site.relay.roster.sessions
    let made := Roster.offer frame sessions site.kernel
    (made.1 = verdicts frame site.kernel sessions ∧ Apart frame sessions site.kernel made.2) ∧
      ∃ report, Parted made.1 site.relay.roster (site.fanOut frame).relay.roster report ∧
        (site.fanOut frame).calls =
          (report.closed.map fun leaver => Call.close (.client leaver.1.label)).reverse ++
            made.2.record.calls := by
  obtain ⟨roster, _, calls⟩ := fanOut_broadcast frame site
  obtain ⟨parted, _⟩ := distinct.parts frame site.kernel
  have alone := Roster.offer_apart frame distinct.labels site.kernel
  refine ⟨alone, _, ?_, calls⟩
  rw [alone.1, roster]
  exact parted

theorem relayPacket_distinct (name : String) (packet : Bytes)
    (distinct : site.relay.roster.Distinct) :
    (site.relayPacket name packet).relay.roster.Distinct := by
  have same := countPacket_relay name packet site
  unfold relayPacket
  dsimp only
  split
  · next frame _ =>
      rw [(fanOut_broadcast frame _).1, same]
      exact distinct.broadcast frame _
  · rw [← show (site.countPacket name packet).relay.roster = _ from congrArg (·.roster) same]
      at distinct
    exact distinct

theorem relayPacket_shares (name : String) {packet : Bytes} (someBytes : packet ≠ [])
    (fits : packet.length ≤ 65535)
    (made : Tunnel.receive Tunnel.maxPacketSize site.kernel.tunnelHandle =
      (.ok (some packet), handle)) :
    ∃ offers offered, Shares packet (Frame.wrap packet) site
      ((site.overTunnel handle).countPacket name packet) offers offered
      ((site.overTunnel handle).relayPacket name packet) := by
  have legal : Frame.Legal packet := ⟨List.length_pos_iff.mpr someBytes, fits⟩
  have encoded := Decoder.encode_legal legal
  have relay := countPacket_relay name packet (site.overTunnel handle)
  have reads := receive_rests made
  obtain ⟨clients, calls⟩ := countPacket_kernel name packet (site.overTunnel handle)
  have shared : (site.overTunnel handle).relayPacket name packet =
      ((site.overTunnel handle).countPacket name packet).fanOut (Frame.wrap packet) := by
    unfold relayPacket
    rw [encoded]
  rw [shared]
  generalize (site.overTunnel handle).countPacket name packet = counted at relay clients calls ⊢
  -- Reading and counting leave roster and streams alone, so the turns start from `site`.
  have roster : site.relay.roster = counted.relay.roster := by
    rw [relay]
    rfl
  let made := Roster.offer (Frame.wrap packet) counted.relay.roster.sessions counted.kernel
  refine ⟨made.1, made.2, encoded, Decoder.drain_wrap legal, relay, clients.trans reads.clients,
    ?_, ?_, ?_, (fanOut_broadcast _ counted).2.1, ?_⟩
  · obtain ⟨new, appended, only⟩ := reads.calls
    exact ⟨new, calls.trans appended, only⟩
  · rw [roster]
    exact Roster.offer_turns ..
  · rw [roster, ← Roster.verdicts_clients _ (clients.trans reads.clients)]
    exact fanOut_parted _
  · rw [fanOut_tunnelDrops, relay]
    rfl

/-- A packet that fills the buffer fits no frame. -/
theorem relayPacket_discards (name : String) {packet : Bytes} (long : 65535 < packet.length)
    (made : Tunnel.receive Tunnel.maxPacketSize site.kernel.tunnelHandle =
      (.ok (some packet), handle)) :
    Discards site ((site.overTunnel handle).relayPacket name packet) := by
  have refused : Frame.encode packet = .error (.tooLong packet.length) := by
    have someBytes : packet.length ≠ 0 := by omega
    simp [Frame.encode, Frame.checkLength, someBytes, Frame.maxLength, long]
  have relay := countPacket_relay name packet (site.overTunnel handle)
  have reads := receive_rests made
  obtain ⟨clients, calls⟩ := countPacket_kernel name packet (site.overTunnel handle)
  unfold relayPacket
  rw [refused]
  generalize (site.overTunnel handle).countPacket name packet = counted at relay clients calls ⊢
  obtain ⟨_, kernel⟩ := counted
  obtain rfl := relay
  refine ⟨rfl, clients, ?_, Nat.add_right_comm ..⟩
  obtain ⟨new, appended, only⟩ := reads.calls
  exact ⟨new, calls.trans appended, only⟩

/-- One serving step: what is read is cut to the size of the buffer, which is longer than
any frame can carry. -/
theorem relayPacket_deals (name : String) {bytes : Bytes}
    (made : Tunnel.receive Tunnel.maxPacketSize site.kernel.tunnelHandle =
      (.ok (some bytes), handle)) :
    let queue := site.kernel.tunnel.inbound
    let left := handle.endpoint.inbound
    let after := (site.overTunnel handle).relayPacket name bytes
    ∃ packet, Deals packet site after ∧ after.kernel.tunnel.inbound = left ∧
      (given .single queue = [packet] ∧ ungiven .single queue = left) ∧
      given .drain queue = packet :: given .drain left ∧
        ungiven .drain queue = ungiven .drain left := by
  intro queue left after
  have fetch := Tunnel.receive_fetch site.kernel.tunnelHandle
  rw [made] at fetch
  obtain ⟨packet, interruptions, someBytes, cut, whole, single, drain⟩ := fetch.gives
  have tunnel : after.kernel.tunnel.inbound = left :=
    congrArg (·.inbound) (relayPacket_tunnel name bytes (site.overTunnel handle))
  refine ⟨packet, ⟨⟨interruptions, tunnel ▸ whole⟩, ?_, ?_, ?_, ?_⟩, tunnel, single, drain⟩
  · exact (relayPacket_counts name bytes (site.overTunnel handle)).2
  · intro fits
    obtain rfl : bytes = packet := cut.trans (List.take_of_length_le (Nat.le_succ_of_le fits))
    exact ⟨_, _, relayPacket_shares name someBytes fits made⟩
  · intro long
    have filled : bytes.length = 65536 := by
      rw [cut, List.length_take]
      exact Nat.min_eq_left long
    exact relayPacket_discards name (by omega) made
  · exact fun distinct => relayPacket_distinct name bytes distinct

/-- A serving deals with the packets that are given to it, in order, and stops. -/
theorem readTunnel_gives (site : Site) (present : site.relay.tunnel.isSome = true) :
    Gives (given site.relay.readMode site.kernel.tunnel.inbound)
      (ungiven site.relay.readMode site.kernel.tunnel.inbound) site site.readTunnel.2 := by
  have lacks {site : Site} {received : Except Errno (Option Bytes)} {handle : Kernel.Handle}
      (made : Tunnel.receive Tunnel.maxPacketSize site.kernel.tunnelHandle = (received, handle))
      (lacking : ∀ packet, received ≠ .ok (some packet)) :
      Gives (given site.relay.readMode site.kernel.tunnel.inbound)
        (ungiven site.relay.readMode site.kernel.tunnel.inbound) site (site.overTunnel handle) := by
    have fetch := Tunnel.receive_fetch site.kernel.tunnelHandle
    rw [made] at fetch
    obtain ⟨nothing, left⟩ := fetch.lacks lacking site.relay.readMode
    rw [show given site.relay.readMode site.kernel.tunnel.inbound = [] from nothing]
    exact ⟨site, .nothing site, receive_rests made, left.symm⟩
  fun_induction readTunnel site with
  | case1 site absent => simp [absent] at present
  | case2 site name _ errno handle failed => exact lacks failed (by simp)
  | case3 site name _ handle received => exact lacks received (by simp)
  | case4 site name _ bytes handle received after mode =>
      obtain ⟨packet, deals, inbound, ⟨given, ungiven⟩, _⟩ := relayPacket_deals name received
      rw [mode, given, ungiven]
      exact ⟨after, .packet deals (.nothing after), .refl after, inbound⟩
  | case5 site name tunnel bytes handle received after mode ih =>
      obtain ⟨packet, deals, inbound, _, given, ungiven⟩ := relayPacket_deals name received
      have evolves := relayPacket_evolves name bytes (site.overTunnel handle)
      have still : after.relay.readMode = .drain := evolves.readMode.trans mode
      have later := ih (by rw [evolves.tunnel]; exact present)
      rw [still, inbound] at later
      obtain ⟨last, emits, rests, left⟩ := later
      rw [mode, given, ungiven]
      exact ⟨last, .packet deals emits, rests, left⟩

theorem Reachable.distinct (reachable : site.Reachable) : site.relay.roster.Distinct where
  ordered := reachable.sound.ordered
  labels := by
    obtain ⟨_, numbered⟩ := reachable.sound.numbered
    refine List.pairwise_map.mpr (reachable.sound.ordered.ids.imp_of_mem ?_)
    intro one other member also above same
    exact absurd (numbered.id_of_label member also same) (Nat.ne_of_lt above)

/-- A packet that frames can carry is sent to everyone in a frame of its own, whole; a
longer one is dropped, and no part of it is seen by anyone. Each is counted. A read that
brings no bytes counts for nothing and ends a drain, with what is behind it still queued.
What is left in the buffer from earlier reads, of the tunnel or of clients, plays no part. -/
theorem emits_whole (site : Site) :
    let queue := site.kernel.tunnel.inbound
    let mode := site.relay.readMode
    let after := site.readTunnel.2
    (site.relay.tunnel = none → site.readTunnel = (.ok (), site)) ∧
    (site.relay.tunnel.isSome = true → Gives (given mode queue) (ungiven mode queue) site after ∧
      ∀ front stop later, mode = .drain → queue = front ++ stop :: later →
        (∀ arrival ∈ front, arrival.passes = true) → stop = .data [] ∨ stop = .ended →
        Gives (front.filterMap packet?) later site after) ∧
    (site.Reachable → site.relay.roster.Distinct) ∧
    ∀ scratch, Buffered.plain (Buffered.readTunnel scratch site) = site.readTunnel ∧
      ∀ moves, Buffered.play moves scratch site = site.play moves := by
  intro queue mode after
  refine ⟨?_, ?_, Reachable.distinct, ?_⟩
  · intro absent
    rw [readTunnel_unfolds, absent]
  · intro present
    have gives := site.readTunnel_gives present
    refine ⟨gives, ?_⟩
    intro front stop later drain whole passes empty
    have stops : stop.passes = false := by rcases empty with rfl | rfl <;> rfl
    obtain ⟨given, ungiven⟩ := Kernel.Arrival.drain_stops passes stops later
    rw [show site.relay.readMode = .drain from drain,
      show site.kernel.tunnel.inbound = _ from whole, given, ungiven] at gives
    exact gives
  · intro scratch
    exact ⟨Buffered.readTunnel_plain scratch site,
      fun moves => Buffered.play_plain moves scratch site⟩

/-- A packet that is one byte too long for the buffer, between two short ones, and then
an empty read. There are two clients, and the stream of the first breaks. -/
theorem emits_whole_around_overlong :
    let long : Bytes := List.replicate 65537 1
    let front : List Arrival := [.data [7], .data long, .failure .interrupted, .data [8]]
    let opened := (fresh {}).play [.world (.connect 2 none), .pass,
      .world (.supplyClient 1 { outbound := [.failure ⟨32⟩] })]
    let site := opened.undergo (.supplyTunnel { inbound := front ++ .data [] :: [.data [9]] })
    (site.Reachable ∧ site.relay.tunnel.isSome = true) ∧
      Gives [[7], long, [8]] [.data [9]] site site.readTunnel.2 ∧
      ∃ start offers offered after, Shares [7] [0, 0, 0, 1, 7] site start offers offered after ∧
        offers.map (fun offer => (offer.1.tag, offer.2)) =
          [((1, 1), .closed (.io ⟨32⟩)), ((2, 2), .sent)] ∧
        after.relay.roster.sessions.map Session.tag = [(2, 2)] := by
  intro long front opened site
  have reachable : site.Reachable :=
    .moved (.play (.opened (fresh_opened {})) _) (.world (.supplyTunnel _))
  have present : site.relay.tunnel.isSome = true := by
    change opened.relay.tunnel.isSome = true
    decide +kernel
  obtain ⟨_, serving, distinct, _⟩ := emits_whole site
  have someLong : long ≠ [] :=
    List.length_pos_iff.mp (by rw [List.length_replicate]; exact Nat.succ_pos 65536)
  have passes : ∀ arrival ∈ front, arrival.passes = true := by
    simp [front, Kernel.Arrival.passes, someLong]
  have drains : site.relay.readMode = .drain := by
    change opened.relay.readMode = .drain
    decide +kernel
  have idle : opened.kernel.tunnel.inbound = [] := by decide +kernel
  have queue : site.kernel.tunnel.inbound = front ++ .data [] :: [.data [9]] := by
    change opened.kernel.tunnel.inbound ++ (front ++ .data [] :: [.data [9]]) = _
    rw [idle, List.nil_append]
  have gives := (serving present).2 front (.data []) [.data [9]] drains queue passes (.inl rfl)
  refine ⟨⟨reachable, present⟩, gives, ?_⟩
  obtain ⟨_, emits, _⟩ := gives
  cases emits with
  | packet deals _ =>
      obtain ⟨frame, start, offers, offered, shares⟩ := deals.fitting (by decide)
      obtain rfl : frame = [0, 0, 0, 1, 7] := by
        have encoded := shares.encoded
        rw [Decoder.encode_legal ⟨by decide, by decide⟩] at encoded
        cases encoded
        rfl
      obtain ⟨⟨alone, _⟩, report, parted, _⟩ := shares.parted (distinct reachable)
      have verdict : offers = verdicts [0, 0, 0, 1, 7] opened.kernel opened.relay.roster.sessions :=
        alone
      refine ⟨start, offers, offered, _, shares, ?_, ?_⟩
      · rw [verdict]
        decide +kernel
      · rw [parted.staying, verdict]
        decide +kernel

end Site
end PacketRelay
