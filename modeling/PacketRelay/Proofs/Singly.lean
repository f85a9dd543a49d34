import PacketRelay.Proofs.Arrivals
import PacketRelay.Proofs.Evolving
import PacketRelay.Proofs.Footprints

/-!
The two ways of reading the tunnel. Main statement: a drain is what comes of taking
packets singly until that fails or takes none, up to the last call and the last byte.
-/

namespace PacketRelay

open Kernel (Arrival Call)
open History (brought)

namespace Site

def inMode (mode : ReadMode) (site : Site) : Site :=
  { site with relay.readMode := mode }

/-- The tunnel is served again and again, until that fails or takes no packet. -/
inductive Repeats : Site → Except Failure Unit → Site → Prop
  | failed {site after : Site} {failure : Failure}
      (served : site.readTunnel = (.error failure, after)) : Repeats site (.error failure) after
  | dry {site after : Site} (served : site.readTunnel = (.ok (), after))
      (nothing : after.calls.countP brought = site.calls.countP brought) :
      Repeats site (.ok ()) after
  | more {site middle after : Site} {result : Except Failure Unit}
      (served : site.readTunnel = (.ok (), middle))
      (something : middle.calls.countP brought ≠ site.calls.countP brought)
      (later : Repeats middle result after) : Repeats site result after

theorem Repeats.unique {site one two : Site} {result other : Except Failure Unit}
    (repeats : Repeats site result one) (also : Repeats site other two) :
    result = other ∧ one = two := by
  induction repeats with
  | failed served =>
      cases also with
      | failed alsoServed =>
          cases served.symm.trans alsoServed
          exact ⟨rfl, rfl⟩
      | dry alsoServed | more alsoServed => cases served.symm.trans alsoServed
  | dry served nothing =>
      cases also with
      | failed alsoServed => cases served.symm.trans alsoServed
      | dry alsoServed =>
          cases served.symm.trans alsoServed
          exact ⟨rfl, rfl⟩
      | more alsoServed something =>
          cases served.symm.trans alsoServed
          exact absurd nothing something
  | more served something _ ih =>
      cases also with
      | failed alsoServed => cases served.symm.trans alsoServed
      | dry alsoServed nothing =>
          cases served.symm.trans alsoServed
          exact absurd nothing something
      | more alsoServed _ later =>
          cases served.symm.trans alsoServed
          exact ih later

/-! ## Nothing but reading the tunnel asks for the mode -/

theorem retireAll_inMode (mode : ReadMode) (closed : List (Session × Parting)) (site : Site) :
    closed.foldl (fun site (session, parting) => site.retire session parting) (site.inMode mode) =
      (closed.foldl (fun site (session, parting) => site.retire session parting) site).inMode
        mode := by
  induction closed generalizing site with
  | nil => rfl
  | cons leaver rest ih => exact ih (site.retire leaver.1 leaver.2)

theorem fanOut_inMode (mode : ReadMode) (frame : Bytes) (site : Site) :
    (site.inMode mode).fanOut frame = (site.fanOut frame).inMode mode := by
  have same : (site.inMode mode).relay.roster.broadcast frame (site.inMode mode).kernel =
    site.relay.roster.broadcast frame site.kernel := rfl
  unfold fanOut
  rw [same]
  generalize site.relay.roster.broadcast frame site.kernel = made
  obtain ⟨report, roster, kernel⟩ := made
  let offered : Site := ⟨{ site.relay with roster }, kernel⟩
  dsimp only
  split
  · exact retireAll_inMode mode report.closed offered
  · exact retireAll_inMode mode report.closed (offered.note (.clientsBusy report.dropped))

theorem countPacket_inMode (mode : ReadMode) (name : String) (packet : Bytes) (site : Site) :
    (site.inMode mode).countPacket name packet = (site.countPacket name packet).inMode mode := by
  unfold countPacket
  dsimp only [inMode, note]
  split <;> rfl

theorem relayPacket_inMode (mode : ReadMode) (name : String) (packet : Bytes) (site : Site) :
    (site.inMode mode).relayPacket name packet = (site.relayPacket name packet).inMode mode := by
  unfold relayPacket
  rw [countPacket_inMode]
  dsimp only
  split
  · exact fanOut_inMode mode _ _
  · rfl

theorem readTunnel_single (site : Site) :
    (site.inMode .single).readTunnel =
      match site.relay.tunnel with
      | none => (.ok (), site.inMode .single)
      | some name =>
          match Tunnel.receive Tunnel.maxPacketSize site.kernel.tunnelHandle with
          | (.error errno, handle) =>
              (.error (.tunnelIo errno), (site.overTunnel handle).inMode .single)
          | (.ok none, handle) => (.ok (), (site.overTunnel handle).inMode .single)
          | (.ok (some packet), handle) =>
              (.ok (), ((site.overTunnel handle).relayPacket name packet).inMode .single) := by
  have mode : (site.inMode .single).relay.readMode = .single := rfl
  have same : (site.inMode .single).relay.tunnel = site.relay.tunnel := rfl
  have handle : (site.inMode .single).kernel.tunnelHandle = site.kernel.tunnelHandle := rfl
  rw [readTunnel_unfolds, mode, same, handle]
  cases site.relay.tunnel with
  | none => rfl
  | some name =>
      generalize Tunnel.receive Tunnel.maxPacketSize site.kernel.tunnelHandle = made
      obtain ⟨received, handle⟩ := made
      rcases received with errno | _ | packet
      · rfl
      · rfl
      · exact congrArg (Prod.mk _) (relayPacket_inMode .single name packet (site.overTunnel handle))

/-! ## What a single serving takes -/

theorem fanOut_brought (frame : Bytes) (site : Site) :
    (site.fanOut frame).calls.countP brought = site.calls.countP brought := by
  obtain ⟨new, calls, writes⟩ := Roster.offer_writes frame site.relay.roster.sessions site.kernel
  obtain ⟨closed, sessions, retired, record, parts, _, closes⟩ := site.fanOut_parts frame
  rw [parts]
  change record.calls.countP brought = _
  rw [closes, calls, History.countP_blind, History.countP_blind]
  · rfl
  · intro call member
    obtain ⟨label, bytes, result, rfl⟩ := writes call member
    rfl
  · intro call member
    obtain ⟨leaver, _, rfl⟩ := List.mem_map.mp (List.mem_reverse.mp member)
    rfl

theorem countPacket_kernel (name : String) (packet : Bytes) (site : Site) :
    (site.countPacket name packet).kernel.clients = site.kernel.clients ∧
      (site.countPacket name packet).calls = site.calls := by
  unfold countPacket
  dsimp only
  split <;> exact ⟨rfl, rfl⟩

theorem relayPacket_counts (name : String) (packet : Bytes) (site : Site) :
    (site.relayPacket name packet).calls.countP brought = site.calls.countP brought ∧
      (site.relayPacket name packet).relay.fromTunnel = site.relay.fromTunnel + 1 := by
  obtain ⟨_, counted⟩ := countPacket_kernel name packet site
  have oneMore := congrArg Relay.fromTunnel (countPacket_relay name packet site)
  unfold relayPacket
  dsimp only
  split
  · next frame _ =>
      obtain ⟨_, _, _, _, parts, _⟩ := (site.countPacket name packet).fanOut_parts frame
      refine ⟨by rw [fanOut_brought, counted], ?_⟩
      rw [parts]
      exact oneMore
  · exact ⟨congrArg (List.countP brought) counted, oneMore⟩

section

variable {site : Site} {received : Except Errno (Option Bytes)} {handle : Kernel.Handle}
  {packet : Bytes}

theorem receive_lacks
    (made : Tunnel.receive Tunnel.maxPacketSize site.kernel.tunnelHandle = (received, handle))
    (lacking : ∀ packet, received ≠ .ok (some packet)) :
    (site.overTunnel handle).calls.countP brought = site.calls.countP brought := by
  obtain ⟨result, rfl, calls⟩ := Counted.receive_calls made
  rw [calls brought rfl]
  rcases Tunnel.gain_ne_some lacking with rfl | ⟨errno, rfl⟩ <;> rfl

theorem receive_brings
    (made : Tunnel.receive Tunnel.maxPacketSize site.kernel.tunnelHandle =
      (.ok (some packet), handle)) :
    (site.overTunnel handle).calls.countP brought = site.calls.countP brought + 1 := by
  obtain ⟨result, gained, calls⟩ := Counted.receive_calls made
  obtain ⟨rfl, someBytes⟩ := Tunnel.gain_eq_some gained.symm
  rw [calls brought rfl, if_pos (by simpa [brought] using someBytes)]

end

/-- At most one packet has been taken: at most one read brought one, and behind the
interruptions in front at most one entry is gone from the queue. -/
structure TakesOne (before after : Site) : Prop where
  calls : after.calls.countP brought ≤ before.calls.countP brought + 1
  fromTunnel : after.relay.fromTunnel ≤ before.relay.fromTunnel + 1
  queue : ∃ interruptions taken, before.kernel.tunnel.inbound =
      List.replicate interruptions (.failure .interrupted) ++ taken ++
        after.kernel.tunnel.inbound ∧ taken.length ≤ 1

theorem readTunnel_takesOne (site : Site) :
    TakesOne site (site.inMode .single).readTunnel.2 := by
  rw [readTunnel_single]
  split
  · exact ⟨Nat.le_succ _, Nat.le_succ _, 0, [], rfl, Nat.zero_le 1⟩
  · next name _ =>
      have fetch := (Tunnel.receive_fetch site.kernel.tunnelHandle).split
      split
      · next errno handle failed =>
          rw [failed] at fetch
          have nothing := receive_lacks failed (by simp)
          exact ⟨Nat.le_succ_of_le (Nat.le_of_eq nothing), Nat.le_succ _, fetch⟩
      · next handle received =>
          rw [received] at fetch
          have nothing := receive_lacks received (by simp)
          exact ⟨Nat.le_succ_of_le (Nat.le_of_eq nothing), Nat.le_succ _, fetch⟩
      · next packet handle received =>
          rw [received] at fetch
          have tunnel := relayPacket_tunnel name packet (site.overTunnel handle)
          obtain ⟨calls, fromTunnel⟩ := relayPacket_counts name packet (site.overTunnel handle)
          refine ⟨Nat.le_of_eq (calls.trans (receive_brings received)), Nat.le_of_eq fromTunnel, ?_⟩
          simp only [inMode, tunnel]
          exact fetch

/-! ## Drains -/

theorem drain_repeats (site : Site) (drain : site.relay.readMode = .drain) :
    Repeats (site.inMode .single) site.readTunnel.1 (site.readTunnel.2.inMode .single) := by
  have single := site.readTunnel_single
  fun_induction readTunnel site with
  | case1 site absent =>
      rw [absent] at single
      exact .dry single rfl
  | case2 site name present errno handle failed =>
      simp only [present, failed] at single
      exact .failed single
  | case3 site name present handle received =>
      simp only [present, received] at single
      exact .dry single (receive_lacks received (by simp))
  | case4 site name present packet handle received after mode => cases drain.symm.trans mode
  | case5 site name present packet handle received after _ ih =>
      simp only [present, received] at single
      obtain ⟨calls, _⟩ := relayPacket_counts name packet (site.overTunnel handle)
      have brings : (after.inMode .single).calls.countP brought =
        (site.inMode .single).calls.countP brought + 1 := calls.trans (receive_brings received)
      have still : after.relay.readMode = .drain :=
        (relayPacket_evolves name packet (site.overTunnel handle)).readMode.trans drain
      exact .more single (by rw [brings]; exact Nat.succ_ne_self _)
        (ih still after.readTunnel_single)

/-- A drain does all that comes of taking packets singly until that fails or takes none,
with the same result and the same calls; only the mode itself is different. Taken singly,
packets leave the tunnel one by one. -/
theorem drain_singly (site : Site) :
    (∀ result last, Repeats (site.inMode .single) result last ↔
      result = (site.inMode .drain).readTunnel.1 ∧
        last = (site.inMode .drain).readTunnel.2.inMode .single) ∧
      TakesOne site (site.inMode .single).readTunnel.2 := by
  refine ⟨fun result last => ?_, site.readTunnel_takesOne⟩
  have repeats : Repeats (site.inMode .single) _ _ := drain_repeats (site.inMode .drain) rfl
  constructor
  · exact fun also => also.unique repeats
  · rintro ⟨rfl, rfl⟩
    exact repeats

end Site
end PacketRelay
