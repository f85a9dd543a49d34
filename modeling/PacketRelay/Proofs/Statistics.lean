import PacketRelay.Proofs.Counting
import PacketRelay.Proofs.Offering

/-!
The totals of a relay. Main statement: at each end of a pass they are what the
record and the offers of the run come to, so none of them ever shrinks, and
neither closing a session nor shutting down changes any.
-/

namespace PacketRelay

open Kernel (Call)
open History (brought oversized carried refused submitted enrolled)

structure Totals.Within (one other : Totals) : Prop where
  fromTunnel : one.fromTunnel ≤ other.fromTunnel
  toTunnel : one.toTunnel ≤ other.toTunnel
  tunnelDrops : one.tunnelDrops ≤ other.tunnelDrops
  fanOutDrops : one.fanOutDrops ≤ other.fanOutDrops
  connections : one.connections ≤ other.connections

def History.totals (calls : List Call) (offers : List Offer) : Totals :=
  { fromTunnel := calls.countP brought
    toTunnel := calls.countP carried
    tunnelDrops := calls.countP oversized + calls.countP refused
    fanOutDrops := offers.countP Offer.isDropped
    connections := (enrolled calls).length }

theorem History.totals_grow (new calls : List Call) (offers later : List Offer) :
    (totals calls offers).Within (totals (new ++ calls) (offers ++ later)) := by
  constructor
  case fromTunnel => simp [totals]
  case toTunnel => simp [totals]
  case tunnelDrops =>
    simp only [totals, List.countP_append]
    omega
  case fanOutDrops => simp [totals]
  case connections => simp [totals, enrolled]

theorem Relay.totals_congr {one two : Relay} (received : one.tally.received = two.tally.received)
    (forwarded : one.tally.forwarded = two.tally.forwarded)
    (dropped : one.tally.dropped = two.tally.dropped) (fromTunnel : one.fromTunnel = two.fromTunnel)
    (unframeable : one.unframeable = two.unframeable)
    (connections : one.connections = two.connections) : one.totals = two.totals := by
  simp only [totals, received, forwarded, dropped, fromTunnel, unframeable, connections]

namespace Site

variable {site : Site}

/-! ## Whoever leaves -/

theorem closeSession_totals (id : Nat) (parting : Parting) (site : Site) :
    (site.closeSession id parting).relay.totals = site.relay.totals := by
  have others : (site.closeSession id parting).relay.fromTunnel = site.relay.fromTunnel ∧
      (site.closeSession id parting).relay.unframeable = site.relay.unframeable ∧
      (site.closeSession id parting).relay.connections = site.relay.connections := by
    unfold closeSession
    split <;> exact ⟨rfl, rfl, rfl⟩
  exact Relay.totals_congr (count_closeSession Tally.received_adds id parting site)
    (count_closeSession Tally.forwarded_adds id parting site)
    (count_closeSession Tally.dropped_adds id parting site) others.1 others.2.1 others.2.2

theorem shutdown_totals (site : Site) : site.shutdown.relay.totals = site.relay.totals := by
  obtain ⟨tally, fromTunnel, unframeable, connections⟩ := site.shutdown_keeps
  exact Relay.totals_congr (congrArg _ tally) (congrArg _ tally) (congrArg _ tally) fromTunnel
    unframeable connections

theorem retireAll_relay (closed : List (Session × Parting)) (site : Site) :
    ∃ retired, (closed.foldl (fun site (session, parting) => site.retire session parting)
      site).relay = { site.relay with retired } := by
  induction closed generalizing site with
  | nil => exact ⟨_, rfl⟩
  | cons leaver rest ih => exact ih _

theorem fanOut_totals (frame : Bytes) (site : Site)
    (connected : ∀ session ∈ site.relay.roster.sessions, session.connected = true) :
    (site.fanOut frame).relay.totals = { site.relay.totals with
      fanOutDrops := site.relay.totals.fanOutDrops +
        (site.relay.roster.broadcast frame site.kernel).1.dropped } := by
  have others : (site.fanOut frame).relay.fromTunnel = site.relay.fromTunnel ∧
      (site.fanOut frame).relay.unframeable = site.relay.unframeable ∧
      (site.fanOut frame).relay.connections = site.relay.connections := by
    unfold fanOut
    dsimp only
    obtain ⟨retired, same⟩ := retireAll_relay
      (site.relay.roster.broadcast frame site.kernel).1.closed _
    rw [same]
    split <;> exact ⟨rfl, rfl, rfl⟩
  obtain ⟨fromTunnel, unframeable, connections⟩ := others
  have received := fanOut_kept Tally.received_adds (fun _ _ _ => rfl) frame site
  have forwarded := fanOut_kept Tally.forwarded_adds (fun _ _ _ => rfl) frame site
  have dropped := fanOut_dropped frame site connected
  simp only [Relay.totals, received, forwarded, dropped, fromTunnel, unframeable, connections]
  rfl

/-! ## Longer runs -/

theorem play_append (moves later : List Move) (site : Site) :
    site.play (moves ++ later) = (site.play moves).play later := by
  induction moves generalizing site with
  | nil => rfl
  | cons made rest ih => exact ih _

theorem playOffers_append (moves later : List Move) (site : Site) :
    site.playOffers (moves ++ later) =
      site.playOffers moves ++ (site.play moves).playOffers later := by
  induction moves generalizing site with
  | nil => rfl
  | cons made rest ih =>
      change site.moveOffers made ++ (site.move made).2.playOffers (rest ++ later) =
        site.moveOffers made ++ (site.move made).2.playOffers rest ++
          ((site.move made).2.play rest).playOffers later
      rw [ih, List.append_assoc]

theorem move_grows (made : Move) (sound : Stage.Sound (.rest site)) :
    site.calls <:+ (site.move made).2.calls := by
  cases made with
  | world deed =>
      have same : (site.move (.world deed)).2.calls = site.calls :=
        congrArg Record.calls (Kernel.undergo_record deed site.kernel)
      exact ⟨[], same.symm⟩
  | pass => exact (pass_path site sound.ordered).grows
  | shutdown => exact (shutdown_path site).grows

theorem play_grows (moves : List Move) (sound : Stage.Sound (.rest site)) :
    site.calls <:+ (site.play moves).calls := by
  induction moves generalizing site with
  | nil => exact List.suffix_rfl
  | cons made rest ih => exact (move_grows made sound).trans (ih (move_sound made sound))

/-! ## The totals -/

theorem Opened.play_totals (opened : site.Opened) (moves : List Move) :
    (site.play moves).relay.totals =
      History.totals (site.play moves).calls (site.playOffers moves) := by
  obtain ⟨sound, counted⟩ := opened.play_counted moves
  obtain ⟨_, numbered⟩ := sound.numbered
  have dropped : (site.play moves).relay.tally.dropped =
      (site.playOffers moves).countP Offer.isDropped := by
    obtain ⟨_, _, _, _, relay⟩ := opened.relay
    rw [play_dropped moves opened.sound, relay]
    exact Nat.zero_add _
  have connections : (site.play moves).relay.connections =
      (enrolled (site.play moves).calls).length := counted.connections.trans numbered.issued
  have handed := History.countP_submitted (site.play moves).calls
  simp only [Relay.totals, History.totals, counted.received, counted.forwarded, dropped,
    counted.fromTunnel, counted.unframeable, connections, handed, Nat.add_sub_cancel_left]

/-- After any moves, whether passes fail or not, the totals are exact: each
packet, drop and connection has been counted once, and stays counted when the
session it belongs to is over. A packet counts as forwarded only if it counts as
received. -/
theorem totals_exact (site : Site) (opened : site.Opened) (moves : List Move) :
    let after := site.play moves
    after.relay.totals =
      { toTunnel := after.calls.countP carried
        fanOutDrops := (site.playOffers moves).countP Offer.isDropped
        tunnelDrops := after.calls.countP oversized + after.calls.countP refused
        fromTunnel := after.calls.countP brought
        connections := (enrolled after.calls).length } ∧
      after.relay.tally.forwarded ≤ after.relay.tally.received ∧
      (∀ later, after.relay.totals.Within (site.play (moves ++ later)).relay.totals) ∧
      (∀ id parting, (after.closeSession id parting).relay.totals = after.relay.totals) ∧
      (∀ frame, (after.fanOut frame).relay.totals = { after.relay.totals with
        fanOutDrops := after.relay.totals.fanOutDrops +
          (after.relay.roster.broadcast frame after.kernel).1.dropped }) ∧
      after.shutdown.relay.totals = after.relay.totals := by
  intro after
  obtain ⟨sound, counted⟩ := opened.play_counted moves
  refine ⟨opened.play_totals moves, ?_, ?_, ?_, ?_, after.shutdown_totals⟩
  · have handed := History.countP_submitted after.calls
    rw [counted.received, counted.forwarded, handed]
    exact Nat.le_add_right _ _
  · intro later
    obtain ⟨new, grown⟩ := play_grows later sound
    rw [opened.play_totals, opened.play_totals, play_append, playOffers_append, ← grown]
    exact History.totals_grow new after.calls _ _
  · exact fun id parting => closeSession_totals id parting after
  · exact fun frame => fanOut_totals frame after fun _ => sound.rest_connected

/-- Two clients: the first sends two packets, of which the tunnel takes one and fails
on the other; the second is busy when the tunnel has a packet for both. -/
theorem totals_over_failure :
    let site := fresh {}
    let moves : List Move := [.world (.connect 2 none), .pass,
      .world (.supplyClient 2 { outbound := [.failure .again] }),
      .world (.supplyTunnel
        { inbound := [.data [7]], outbound := [.everything, .failure .noDevice] }),
      .world (.supplyClient 1 { inbound := [.data [0, 0, 0, 1, 8, 0, 0, 0, 1, 9]] }), .pass]
    let after := site.play moves
    site.Opened ∧ (site.unfailing moves = false ∧ after.relay.totals =
      { toTunnel := 1, fanOutDrops := 1, tunnelDrops := 1, fromTunnel := 1, connections := 2 }) ∧
      after.relay.totals =
        { toTunnel := after.calls.countP carried
          fanOutDrops := (site.playOffers moves).countP Offer.isDropped
          tunnelDrops := after.calls.countP oversized + after.calls.countP refused
          fromTunnel := after.calls.countP brought
          connections := (enrolled after.calls).length } :=
  ⟨fresh_opened {}, by decide +kernel, (totals_exact (fresh {}) (fresh_opened {}) _).1⟩

end Site
end PacketRelay
