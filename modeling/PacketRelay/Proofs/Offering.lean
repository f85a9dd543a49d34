import PacketRelay.Proofs.Sound
import PacketRelay.Proofs.Tallies

/-!
The offers that broadcasts make, read off a run as it goes. Main statement:
however a run goes, the dropped frames that the sessions have counted, those
that are over included, are the offers that were dropped.
-/

namespace PacketRelay

open Kernel (Flags)

structure Offer where
  id : Nat
  packet : Bytes
  sending : Sending

def Offer.isDropped (offer : Offer) : Bool :=
  offer.sending = .dropped

namespace Site

/-- The offers that a packet comes to: one to each session, or none if no frame can carry it. -/
def packetOffers (packet : Bytes) (site : Site) : List Offer :=
  match Frame.encode packet with
  | .ok frame =>
      (Roster.offer frame site.relay.roster.sessions site.kernel).1.map fun (session, sending) =>
        ⟨session.id, packet, sending⟩
  | .error _ => []

def tunnelOffers (site : Site) : List Offer :=
  match site.relay.tunnel with
  | none => []
  | some name =>
      match _ : Tunnel.receive Tunnel.maxPacketSize site.kernel.tunnelHandle with
      | (.error _, _) | (.ok none, _) => []
      | (.ok (some packet), handle) =>
          let offers := ((site.overTunnel handle).countPacket name packet).packetOffers packet
          match site.relay.readMode with
          | .single => offers
          | .drain => offers ++ ((site.overTunnel handle).relayPacket name packet).tunnelOffers
termination_by site.kernel.tunnel.inbound.length
decreasing_by
  have received := ‹Tunnel.receive Tunnel.maxPacketSize site.kernel.tunnelHandle = _›
  have shorter := Tunnel.receive_some Tunnel.maxPacketSize site.kernel.tunnelHandle packet
    (by rw [received])
  rw [received] at shorter
  rw [relayPacket_tunnel]
  exact shorter

def serveOffers (source : Source) (site : Site) : List Offer :=
  match source with
  | .tunnel => site.tunnelOffers
  | .channel | .client _ => []

def serveAllOffers : List (Source × Flags) → Site → List Offer
  | [], _ => []
  | (source, flags) :: rest, site =>
      site.serveOffers source ++
        match site.serve source flags with
        | (.error _, _) => []
        | (.ok (), after) => after.serveAllOffers rest

def passOffers (site : Site) : List Offer :=
  match site.ready with
  | (.error _, _) => []
  | (.ok sources, after) => after.serveAllOffers sources

def moveOffers : Move → Site → List Offer
  | .pass, site => site.passOffers
  | .world _, _ | .shutdown, _ => []

def playOffers : List Move → Site → List Offer
  | [], _ => []
  | made :: rest, site => site.moveOffers made ++ (site.move made).2.playOffers rest

end Site

/-! ## One broadcast -/

namespace Roster

variable {frame : Bytes}

theorem offer_dropped (frame : Bytes) (sessions : List Session) (kernel : Kernel)
    (connected : ∀ session ∈ sessions, session.connected = true) :
    ((offer frame sessions kernel).1.map (·.1.tally.dropped)).sum =
      (sessions.map (·.tally.dropped)).sum + (offer frame sessions kernel).1.countP drops := by
  induction sessions generalizing kernel with
  | nil => rfl
  | cons session rest ih =>
      have later := ih (kernel.overLine ((kernel.line session).send frame).2) fun other member =>
        connected other (List.mem_cons_of_mem _ member)
      have counts : ((kernel.line session).send frame).2.session.tally.dropped =
          session.tally.dropped + _ :=
        (Line.send_counts frame (kernel.line session) (connected session List.mem_cons_self)).2.1
      simp only [offer, List.map_cons, List.sum_cons, List.countP_cons, later, counts, drops_eq,
        decide_eq_true_eq]
      omega

theorem offer_kept {count : Tally → Nat}
    (blind : ∀ tally sent dropped, count { tally with sent, dropped } = count tally)
    (frame : Bytes) (sessions : List Session) (kernel : Kernel) :
    ((offer frame sessions kernel).1.map (count ·.1.tally)).sum =
      (sessions.map (count ·.tally)).sum := by
  induction sessions generalizing kernel with
  | nil => rfl
  | cons session rest ih =>
      have same : count ((kernel.line session).send frame).2.session.tally =
          count session.tally := by
        obtain ⟨_, _, _, _, changed⟩ := (Line.send_sends frame (kernel.line session)).session
        rw [changed]
        exact blind session.tally _ _
      simp only [offer, List.map_cons, List.sum_cons, ih, same]

/-- Those that stay and those that were closed are all that were offered the frame. -/
theorem sum_removeAll (weight : Session → Nat) (failed : List (Nat × Parting)) (roster : Roster) :
    ((roster.removeAll failed).2.sessions.map weight).sum +
        ((roster.removeAll failed).1.map (weight ·.1)).sum =
      (roster.sessions.map weight).sum := by
  have everyone := ((roster.removeAll_perm failed).map weight).sum_nat
  rw [List.map_append, List.sum_append, List.map_map] at everyone
  exact (Nat.add_comm _ _).trans everyone

end Roster

namespace Site

variable {count : Tally → Nat} {site : Site}

theorem count_retire (adds : Tally.Adds count) (session : Session) (parting : Parting)
    (site : Site) :
    count (site.retire session parting).relay.tally =
      count site.relay.tally + count session.tally := by
  have retired := adds site.relay.retired session.tally
  rw [Relay.count_tally adds, Relay.count_tally adds]
  simp only [retire, absorb, note]
  omega

theorem count_retireAll (adds : Tally.Adds count) (closed : List (Session × Parting))
    (site : Site) :
    count (closed.foldl (fun site (session, parting) => site.retire session parting)
      site).relay.tally =
      count site.relay.tally + (closed.map (count ·.1.tally)).sum := by
  induction closed generalizing site with
  | nil => rfl
  | cons leaver rest ih =>
      rw [List.foldl_cons, ih, count_retire adds, List.map_cons, List.sum_cons, Nat.add_assoc]

theorem count_fanOut (adds : Tally.Adds count) (frame : Bytes) (site : Site) :
    count (site.fanOut frame).relay.tally = count site.relay.retired +
      ((Roster.offer frame site.relay.roster.sessions site.kernel).1.map
        (count ·.1.tally)).sum := by
  unfold fanOut Roster.broadcast
  generalize Roster.offer frame site.relay.roster.sessions site.kernel = made
  obtain ⟨offers, kernel⟩ := made
  have everyone := Roster.sum_removeAll (count ·.tally) (offers.filterMap Roster.failedBy)
    { site.relay.roster with sessions := offers.map (·.1) }
  dsimp only at everyone ⊢
  rw [List.map_map] at everyone
  rw [count_retireAll adds, Relay.count_tally adds, Nat.add_assoc]
  split
  · exact congrArg (count site.relay.retired + ·) everyone
  · exact congrArg (count site.relay.retired + ·) everyone

theorem fanOut_dropped (frame : Bytes) (site : Site)
    (connected : ∀ session ∈ site.relay.roster.sessions, session.connected = true) :
    (site.fanOut frame).relay.tally.dropped = site.relay.tally.dropped +
      (Roster.offer frame site.relay.roster.sessions site.kernel).1.countP Roster.drops := by
  have counted := Roster.offer_dropped frame site.relay.roster.sessions site.kernel connected
  rw [count_fanOut Tally.dropped_adds, counted, Relay.count_tally Tally.dropped_adds,
    Nat.add_assoc]

theorem fanOut_kept (adds : Tally.Adds count)
    (blind : ∀ tally sent dropped, count { tally with sent, dropped } = count tally)
    (frame : Bytes) (site : Site) :
    count (site.fanOut frame).relay.tally = count site.relay.tally := by
  rw [count_fanOut adds, Roster.offer_kept blind, Relay.count_tally adds]

/-! ## What drops nothing -/

/-- Closing a session, for whatever reason, takes nothing out of the count. -/
theorem count_closeSession (adds : Tally.Adds count) (id : Nat) (parting : Parting) (site : Site) :
    count (site.closeSession id parting).relay.tally = count site.relay.tally := by
  unfold closeSession
  cases found : site.relay.roster.find? id with
  | none => simp [Roster.remove, found]
  | some session =>
      have removed := Roster.sum_remove found (count ·.tally)
      simp only [Roster.remove, found] at removed ⊢
      rw [count_retire adds, Relay.count_tally adds, Relay.count_tally adds]
      dsimp only
      omega

theorem acceptClients_dropped (site : Site) :
    site.acceptClients.relay.tally.dropped = site.relay.tally.dropped := by
  fun_induction acceptClients site with
  | case1 => rfl
  | case2 => rfl
  | case3 site label kernel taken ih =>
      rw [ih]
      exact count_enroll Tally.dropped_adds label { site with kernel }

theorem readClient_dropped {session : Session} (flags : Flags)
    (ordered : site.relay.roster.Ordered)
    (found : site.relay.roster.find? session.id = some session) :
    (site.readClient session flags).2.relay.tally.dropped = site.relay.tally.dropped := by
  have put {name : String} {result : Except Errno Disposition} {circuit : Circuit}
      (served : (site.kernel.circuit session).read name Tunnel.maxPacketSize
        site.relay.readBudget = (result, circuit)) :
      (site.overCircuit circuit).relay.tally.dropped = site.relay.tally.dropped := by
    have receives := Circuit.Receives.of_read served
    obtain ⟨_, _, _, _, changed⟩ := receives.session
    have moved : (site.overCircuit circuit).relay.tally.dropped + session.tally.dropped =
        site.relay.tally.dropped + circuit.session.tally.dropped :=
      count_putBack Tally.dropped_adds ordered found receives.id rfl rfl
    rw [changed] at moved
    exact Nat.add_right_cancel moved
  unfold readClient
  split
  · split
    · rfl
    · split
      · next served => exact put served
      · next served =>
          exact (count_closeSession Tally.dropped_adds ..).trans (put served)
      · next served => exact put served
  · split
    · exact count_closeSession Tally.dropped_adds ..
    · rfl

theorem serveClient_dropped (id : Nat) (flags : Flags) (ordered : site.relay.roster.Ordered) :
    (site.serveClient id flags).2.relay.tally.dropped = site.relay.tally.dropped := by
  unfold serveClient
  split
  · rfl
  · next session found =>
      obtain ⟨_, rfl⟩ := Roster.mem_of_find? found
      split
      · have same := (Line.flush_counts (site.kernel.line session)).1
        have own := (Line.flush_sends (site.kernel.line session)).id
        have put : (site.overLine (site.kernel.line session).flush.2).relay.tally.dropped =
            site.relay.tally.dropped := by
          have moved : (site.overLine (site.kernel.line session).flush.2).relay.tally.dropped +
              session.tally.dropped = site.relay.tally.dropped +
              (site.kernel.line session).flush.2.session.tally.dropped :=
            count_putBack Tally.dropped_adds ordered found own rfl rfl
          rw [same] at moved
          exact Nat.add_right_cancel moved
        split
        · next parting line flush =>
            rw [flush] at put
            exact (count_closeSession Tally.dropped_adds ..).trans put
        · next line flush =>
            rw [flush] at put own
            have again := Roster.find?_update_self (own ▸ found)
            exact (readClient_dropped flags (Roster.update_ordered _ ordered) again).trans put
      · exact readClient_dropped flags ordered found

/-! Shutting down moves the tallies of all sessions to those that are over. -/

theorem absorbAll_relay (sessions : List Session) (site : Site) :
    (sessions.foldl absorb site).relay = { site.relay with
      retired :=
        sessions.foldl (fun sum session => sum.add session.tally) site.relay.retired } := by
  induction sessions generalizing site with
  | nil => rfl
  | cons session rest ih => exact ih (site.absorb session)

theorem closeTunnel_relay (site : Site) :
    site.closeTunnel.relay = { site.relay with tunnel := none } := by
  obtain ⟨relay, kernel⟩ := site
  obtain ⟨tunnel⟩ := relay
  cases tunnel <;> rfl

theorem closeSessions_relay (site : Site) : site.closeSessions.relay =
    { site.relay with roster.sessions := [], retired := site.relay.tally } :=
  absorbAll_relay site.relay.roster.sessions _

theorem shutdown_keeps (site : Site) :
    site.shutdown.relay.tally = site.relay.tally ∧
      site.shutdown.relay.fromTunnel = site.relay.fromTunnel ∧
      site.shutdown.relay.unframeable = site.relay.unframeable ∧
      site.shutdown.relay.connections = site.relay.connections := by
  unfold shutdown
  dsimp only
  split
  · exact ⟨rfl, rfl, rfl, rfl⟩
  · simp only [note, closeChannel, closeSessions_relay, closeTunnel_relay, and_true]
    rfl

theorem ready_relay (site : Site) : site.ready.2.relay = site.relay := by
  unfold ready
  dsimp only
  split <;> rfl

/-! ## Runs -/

theorem countPacket_relay (name : String) (packet : Bytes) (site : Site) :
    (site.countPacket name packet).relay =
      { site.relay with fromTunnel := site.relay.fromTunnel + 1 } := by
  unfold countPacket
  dsimp only
  split <;> rfl

theorem relayPacket_dropped (name : String) (packet : Bytes) (site : Site)
    (connected : ∀ session ∈ site.relay.roster.sessions, session.connected = true) :
    (site.relayPacket name packet).relay.tally.dropped = site.relay.tally.dropped +
      ((site.countPacket name packet).packetOffers packet).countP Offer.isDropped := by
  have counted := countPacket_relay name packet site
  have same : (site.countPacket name packet).relay.tally = site.relay.tally := by
    rw [counted]
    rfl
  unfold relayPacket packetOffers
  dsimp only
  cases Frame.encode packet with
  | ok frame =>
      rw [fanOut_dropped frame _ (by rw [counted]; exact connected), same, List.countP_map]
      congr 2
      funext made
      exact Roster.drops_eq made.1 made.2
  | error violation => exact congrArg Tally.dropped same

theorem tunnelOffers_nothing (nothing : ∀ packet,
    (Tunnel.receive Tunnel.maxPacketSize site.kernel.tunnelHandle).1 ≠ .ok (some packet)) :
    site.tunnelOffers = [] := by
  unfold tunnelOffers
  split
  · rfl
  · split <;> simp_all

theorem tunnelOffers_took {name : String} {packet : Bytes} {handle : Kernel.Handle}
    (present : site.relay.tunnel = some name)
    (received : Tunnel.receive Tunnel.maxPacketSize site.kernel.tunnelHandle =
      (.ok (some packet), handle)) :
    site.tunnelOffers = ((site.overTunnel handle).countPacket name packet).packetOffers packet ++
      match site.relay.readMode with
      | .single => []
      | .drain => ((site.overTunnel handle).relayPacket name packet).tunnelOffers := by
  rw [tunnelOffers]
  simp only [present]
  split
  · simp_all
  · simp_all
  · next other after made =>
      cases received.symm.trans made
      split <;> simp_all

theorem readTunnel_dropped (site : Site) (sound : Stage.Sound (.rest site)) :
    site.readTunnel.2.relay.tally.dropped =
      site.relay.tally.dropped + site.tunnelOffers.countP Offer.isDropped := by
  fun_induction readTunnel site with
  | case1 site absent =>
      unfold tunnelOffers
      simp [absent]
  | case2 site name present errno handle failed =>
      rw [tunnelOffers_nothing (by simp [failed])]
      rfl
  | case3 site name present handle received =>
      rw [tunnelOffers_nothing (by simp [received])]
      rfl
  | case4 site name present packet handle received after single =>
      have passed := relayPacket_dropped name packet (site.overTunnel handle)
        fun _ => sound.rest_connected
      rw [tunnelOffers_took present received, single, List.append_nil]
      exact passed
  | case5 site name present packet handle received after drain ih =>
      have passed := relayPacket_dropped name packet (site.overTunnel handle)
        fun _ => sound.rest_connected
      have relaying := relayPacket_path name packet handle site sound.ordered received present
      have later := ih (relaying.sound sound)
      rw [tunnelOffers_took present received, drain, List.countP_append, later, passed]
      exact Nat.add_assoc ..

theorem serve_dropped (source : Source) (flags : Flags) (sound : Stage.Sound (.rest site)) :
    (site.serve source flags).2.relay.tally.dropped =
      site.relay.tally.dropped + (site.serveOffers source).countP Offer.isDropped := by
  cases source with
  | tunnel => exact site.readTunnel_dropped sound
  | channel => exact site.acceptClients_dropped
  | client id => exact serveClient_dropped id flags sound.ordered

theorem serveAll_dropped (sources : List (Source × Flags)) (sound : Stage.Sound (.rest site)) :
    (site.serveAll sources).2.relay.tally.dropped =
      site.relay.tally.dropped + (site.serveAllOffers sources).countP Offer.isDropped := by
  induction sources generalizing site with
  | nil => rfl
  | cons ready rest ih =>
      obtain ⟨source, flags⟩ := ready
      have served := serve_dropped source flags sound
      have path := serve_path site source flags sound.ordered
      unfold serveAll serveAllOffers
      rw [List.countP_append]
      generalize site.serve source flags = made at served path ⊢
      obtain ⟨result, after⟩ := made
      cases result with
      | error failure => exact served
      | ok value =>
          change (after.serveAll rest).2.relay.tally.dropped =
            site.relay.tally.dropped + ((site.serveOffers source).countP Offer.isDropped +
              (after.serveAllOffers rest).countP Offer.isDropped)
          rw [ih (path.sound sound), served, Nat.add_assoc]

theorem pass_dropped (sound : Stage.Sound (.rest site)) :
    site.pass.2.relay.tally.dropped =
      site.relay.tally.dropped + site.passOffers.countP Offer.isDropped := by
  have polled := site.ready_relay
  have path := site.ready_path
  unfold pass passOffers
  generalize site.ready = made at polled path
  obtain ⟨result, after⟩ := made
  cases result with
  | error failure => exact congrArg (·.tally.dropped) polled
  | ok sources =>
      have served := serveAll_dropped sources (path.sound sound)
      rw [polled] at served
      exact served

theorem move_dropped (made : Move) (sound : Stage.Sound (.rest site)) :
    (site.move made).2.relay.tally.dropped =
      site.relay.tally.dropped + (site.moveOffers made).countP Offer.isDropped := by
  cases made with
  | world deed => rfl
  | pass => exact pass_dropped sound
  | shutdown => exact congrArg Tally.dropped site.shutdown_keeps.1

theorem play_dropped (moves : List Move) (sound : Stage.Sound (.rest site)) :
    (site.play moves).relay.tally.dropped =
      site.relay.tally.dropped + (site.playOffers moves).countP Offer.isDropped := by
  induction moves generalizing site with
  | nil => rfl
  | cons made rest ih =>
      have first := move_dropped made sound
      have later := ih (move_sound made sound)
      unfold play playOffers
      rw [later, first, List.countP_append, Nat.add_assoc]

end Site
end PacketRelay
