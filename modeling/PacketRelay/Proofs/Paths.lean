import PacketRelay.Proofs.Broadcasting
import PacketRelay.Proofs.Moves
import PacketRelay.Proofs.Service
import PacketRelay.Proofs.Stages

/-!
The functions of the relay as paths of turns. Main statement: a pass is a path
from rest to rest, and so is a shutdown.
-/

namespace PacketRelay

open Kernel (Handle)

/-! ## Every turn keeps the roster in order -/

theorem Turn.ordered (stage next : Stage) (turn : Turn stage next)
    (ordered : stage.site.relay.roster.Ordered) : next.site.relay.roster.Ordered := by
  cases turn with
  | noted | polled | idle | took | dropped | hungUp | refused | marked => exact ordered
  | offered found sent => exact Roster.update_ordered _ ordered
  | flushed found flush => exact Roster.update_ordered _ ordered
  | broke found flush => exact Roster.update_ordered _ ordered
  | read found served => exact Roster.update_ordered _ ordered
  | left found => exact Roster.remove_ordered _ ordered
  | accepted taken => exact Roster.insert_ordered _ ordered
  | closedTunnel site =>
      unfold Site.closeTunnel
      split
      · exact ordered
      · exact ordered
  | dismissed sessions =>
      obtain ⟨ids, issued⟩ := ordered
      rw [sessions] at ids issued
      exact ⟨(List.pairwise_cons.mp ids).2,
        fun other member => issued other (List.mem_cons_of_mem _ member)⟩
  | closedChannel site => exact ordered

theorem Fatal.ordered (site : Site) (failure : Failure) (after : Site)
    (fatal : Fatal site failure after) (ordered : site.relay.roster.Ordered) :
    after.relay.roster.Ordered := by
  cases fatal with
  | poll | receive => exact ordered
  | transmit found failed => exact Roster.update_ordered _ ordered

theorem Path.ordered {stage last : Stage} {result : Except Failure Unit}
    (path : Path stage result last) (ordered : stage.site.relay.roster.Ordered) :
    last.site.relay.roster.Ordered :=
  path.invariant Turn.ordered Fatal.ordered ordered

namespace Site

/-! ## Broadcasts -/

theorem offer_path (packet : Bytes) (site : Site) (before todo : List Session)
    (leaving : List (Nat × Parting)) (sessions : site.relay.roster.sessions = before ++ todo)
    (ordered : site.relay.roster.Ordered) :
    let offers := Roster.offer (Frame.wrap packet) todo site.kernel
    Path ⟨site, todo.map fun session => (session.id, packet), leaving⟩ (.ok ())
      ⟨{ relay := { site.relay with roster.sessions := before ++ offers.1.map (·.1) }
         kernel := offers.2 }, [],
        leaving ++ offers.1.flatMap fun made => made.2.partings made.1.id⟩ := by
  -- A session that has been offered the packet moves from `todo` to `before`.
  induction todo generalizing site before leaving with
  | nil =>
      simp only [Roster.offer, List.map_nil, List.flatMap_nil, List.append_nil] at sessions ⊢
      rw [← sessions]
      exact .done _
  | cons session rest ih =>
      intro offers
      have found : site.relay.roster.find? session.id = some session :=
        Roster.find?_of_mem ordered (by simp [sessions])
      generalize sent : (site.kernel.line session).send (Frame.wrap packet) = result
      obtain ⟨sending, line⟩ := result
      have same : line.session.id = session.id := (Line.Sends.of_send sent).id
      have updated : (site.relay.roster.update line.session).sessions =
          (before ++ [line.session]) ++ rest := by
        have ids := ordered.ids
        rw [sessions, List.pairwise_append, List.pairwise_cons] at ids
        obtain ⟨_, ⟨above, _⟩, below⟩ := ids
        have first : ∀ other ∈ before, ¬ other.id = session.id := fun other member =>
          Nat.ne_of_lt (below other member session List.mem_cons_self)
        have second : ∀ other ∈ rest, ¬ other.id = session.id := fun other member =>
          Nat.ne_of_gt (above other member)
        simp only [Roster.update, sessions, same, List.map_append, List.map_cons, if_true,
          List.append_assoc, List.singleton_append]
        rw [List.map_congr_left fun other member => if_neg (first other member),
          List.map_congr_left fun other member => if_neg (second other member)]
        simp
      have later := ih (site.overLine line) (before ++ [line.session])
        (leaving ++ sending.partings session.id) updated (Roster.update_ordered _ ordered)
      have issued : (site.relay.roster.update line.session).issued = site.relay.roster.issued := rfl
      refine .turn (.offered found sent) ?_
      simpa [offers, Roster.offer, sent, same, Site.overLine, issued] using later

/-- Those that are leaving go one by one, though the roster is already rid of them all. -/
theorem retire_path (site : Site) (closed : List (Session × Parting))
    (ordered : site.relay.roster.Ordered) (ids : closed.Pairwise (·.1.id ≠ ·.1.id))
    (present : ∀ leaver ∈ closed, leaver.1 ∈ site.relay.roster.sessions) :
    Path ⟨site, [], closed.map fun leaver => (leaver.1.id, leaver.2)⟩ (.ok ())
      (.rest (closed.foldl (fun site (session, parting) => site.retire session parting)
        { site with relay.roster.sessions := site.relay.roster.sessions.filter fun session =>
            session.id ∉ closed.map (·.1.id) })) := by
  induction closed generalizing site with
  | nil =>
      have same : site.relay.roster.sessions.filter (fun session =>
          session.id ∉ ([] : List (Session × Parting)).map (·.1.id)) =
          site.relay.roster.sessions := by simp
      rw [same]
      exact .done _
  | cons leaver rest ih =>
      obtain ⟨session, parting⟩ := leaver
      obtain ⟨different, others⟩ := List.pairwise_cons.mp ids
      have member := present _ List.mem_cons_self
      have found := Roster.find?_of_mem ordered member
      -- Those behind this one have not left yet, but they are not counted any more.
      let remaining := site.relay.roster.sessions.filter fun other =>
        other.id ∉ ((session, parting) :: rest).map (·.1.id)
      let gone := (site.leave session parting).note (.disconnected remaining.length)
      have kept : gone.relay.roster.Ordered := Roster.remove_ordered _ ordered
      have still : ∀ leaver ∈ rest, leaver.1 ∈ gone.relay.roster.sessions := fun leaver inside =>
        (Roster.mem_remove ordered).mpr
          ⟨present leaver (List.mem_cons_of_mem _ inside), (different leaver inside).symm⟩
      have same : gone.relay.roster.sessions.filter (fun other => other.id ∉ rest.map (·.1.id)) =
          remaining := by
        change (site.relay.roster.remove session.id).2.sessions.filter _ = _
        rw [Roster.remove_sessions ordered, List.filter_filter]
        simp [remaining, Bool.and_comm, -List.mem_map]
      have later := ih gone kept others still
      rw [same] at later
      exact .turn (.left found) (.turn (.noted _ _ rfl) later)

theorem partings_eq (offers : List (Session × Sending)) :
    (offers.flatMap fun made => made.2.partings made.1.id) =
      (offers.filterMap Roster.closedBy).map fun leaver => (leaver.1.id, leaver.2) := by
  induction offers with
  | nil => rfl
  | cons made rest ih =>
      obtain ⟨session, sending⟩ := made
      rw [List.flatMap_cons, ih]
      cases sending <;> simp [Sending.partings, Roster.closedBy, List.filterMap_cons]

theorem fanOut_path (packet : Bytes) (site : Site) (ordered : site.relay.roster.Ordered) :
    Path ⟨site, site.relay.roster.sessions.map fun session => (session.id, packet), []⟩ (.ok ())
      (.rest (site.fanOut (Frame.wrap packet))) := by
  have offering := offer_path packet site [] site.relay.roster.sessions [] rfl ordered
  have sameIds := Roster.offer_ids (Frame.wrap packet) site.relay.roster.sessions site.kernel
  unfold fanOut
  rw [Roster.broadcast_eq _ _ ordered]
  generalize Roster.offer (Frame.wrap packet) site.relay.roster.sessions site.kernel = made
    at offering sameIds ⊢
  obtain ⟨offers, kernel⟩ := made
  simp only [List.nil_append, partings_eq] at offering
  have ids : offers.Pairwise (·.1.id ≠ ·.1.id) := by
    have apart : (offers.map (·.1.id)).Pairwise (· ≠ ·) := by
      rw [sameIds, List.pairwise_map]
      exact ordered.ids.imp Nat.ne_of_lt
    exact List.pairwise_map.mp apart
  -- All offers are made before anyone leaves, so those that leave are still on this roster.
  let offered : Site :=
    { relay := { site.relay with roster.sessions := offers.map (·.1) }, kernel }
  have kept : offered.relay.roster.Ordered := offering.ordered ordered
  have present : ∀ leaver ∈ offers.filterMap Roster.closedBy,
      leaver.1 ∈ offered.relay.roster.sessions := by
    intro leaver isLeaver
    obtain ⟨made, inside, closed⟩ := List.mem_filterMap.mp isLeaver
    exact List.mem_map.mpr ⟨made, inside, (Roster.closedBy_session closed).symm⟩
  have apart : (offers.filterMap Roster.closedBy).Pairwise (·.1.id ≠ ·.1.id) := by
    apply List.pairwise_filterMap.mpr
    apply ids.imp
    intro one other different leaver closed alsoLeaver alsoClosed
    rwa [Roster.closedBy_session closed, Roster.closedBy_session alsoClosed]
  refine offering.trans rfl ?_
  dsimp only
  split
  · have leaving := retire_path offered _ kept apart present
    rw [Roster.staying offers ids] at leaving
    exact leaving
  · have leaving := retire_path (offered.note (.clientsBusy (offers.countP Roster.drops))) _ kept
      apart present
    rw [show (offered.note _).relay.roster.sessions = offers.map (·.1) from rfl,
      Roster.staying offers ids] at leaving
    exact .turn (.noted _ _ rfl) leaving

/-! ## The tunnel -/

theorem countPacket_path (name : String) (packet : Bytes) (handle : Handle) (site : Site)
    (offers : List (Nat × Bytes)) :
    Path ⟨site.give handle, offers, []⟩ (.ok ())
      ⟨(site.overTunnel handle).countPacket name packet, offers, []⟩ := by
  unfold countPacket
  refine .turn (.noted _ (.tunnelGave name packet) rfl) ?_
  dsimp only
  split
  · exact .turn (.noted _ _ rfl) (.done _)
  · exact .done _

theorem countPacket_roster (name : String) (packet : Bytes) (site : Site) :
    (site.countPacket name packet).relay.roster = site.relay.roster := by
  unfold countPacket
  dsimp only
  split <;> rfl

theorem relayPacket_path (name : String) (packet : Bytes) (handle : Handle) (site : Site)
    (ordered : site.relay.roster.Ordered)
    (received : Tunnel.receive Tunnel.maxPacketSize site.kernel.tunnelHandle =
      (.ok (some packet), handle))
    (present : site.relay.tunnel = some name) :
    Path (.rest site) (.ok ()) (.rest ((site.overTunnel handle).relayPacket name packet)) := by
  unfold relayPacket
  dsimp only
  split
  · next frame framed =>
      obtain ⟨legal, rfl⟩ := (Frame.encode_eq_ok_iff packet frame).mp framed
      have counting := countPacket_path name packet handle site
        (site.relay.roster.sessions.map fun session => (session.id, packet))
      have same := countPacket_roster name packet (site.overTunnel handle)
      refine .turn (.took received framed (by simp [present])) (counting.trans rfl ?_)
      change Path ⟨_, (site.overTunnel handle).relay.roster.sessions.map _, []⟩ _ _
      rw [← same]
      exact fanOut_path packet _ (same ▸ ordered)
  · next violation refused =>
      refine .turn (.dropped received refused (by simp [present])) ?_
      unfold countPacket
      refine .turn (.noted _ (.tunnelGave name packet) rfl) ?_
      dsimp only
      split
      · exact .turn (.noted _ _ rfl) (.turn (.noted _ _ rfl) (.done _))
      · exact .turn (.noted _ _ rfl) (.done _)

theorem readTunnel_path (site : Site) (ordered : site.relay.roster.Ordered) :
    Path (.rest site) site.readTunnel.1 (.rest site.readTunnel.2) := by
  fun_induction readTunnel site with
  | case1 site absent => exact .done _
  | case2 site name present errno handle failed =>
      exact .failed (.receive failed (by simp [present]))
  | case3 site name present handle received => exact .single (.idle received (by simp [present]))
  | case4 site name present packet handle received after single =>
      exact relayPacket_path name packet handle site ordered received present
  | case5 site name present packet handle received after drain ih =>
      have first := relayPacket_path name packet handle site ordered received present
      exact first.trans rfl (ih (first.ordered ordered))

/-! ## The channel -/

theorem acceptClients_path (site : Site) :
    Path (.rest site) (.ok ()) (.rest site.acceptClients) := by
  fun_induction acceptClients site with
  | case1 site kernel taken => exact .single (.refused taken (by simp))
  | case2 site errno kernel taken =>
      exact .turn (.refused taken (by simp)) (.single (.noted _ _ rfl))
  | case3 site label kernel taken ih => exact .turn (.accepted taken) ih

/-! ## A client -/

theorem closeSession_path (site : Site) (session : Session) (parting : Parting)
    (found : site.relay.roster.find? session.id = some session) :
    Path ⟨site, [], [(session.id, parting)]⟩ (.ok ())
      (.rest (site.closeSession session.id parting)) := by
  have left : Turn ⟨site, [], [(session.id, parting)]⟩ ⟨site.leave session parting, [], []⟩ :=
    .left found
  have noted := Turn.noted ⟨site.leave session parting, [], []⟩
    (.disconnected (site.relay.roster.remove session.id).2.size) rfl
  unfold closeSession
  simp only [Roster.remove, found]
  exact .turn left (.single noted)

theorem readClient_path (site : Site) (session : Session) (flags : Kernel.Flags)
    (found : site.relay.roster.find? session.id = some session) :
    Path (.rest site) (site.readClient session flags).1
      (.rest (site.readClient session flags).2) := by
  unfold readClient
  split
  · split
    · exact .done _
    · next name present =>
        split
        · next errno circuit failed => exact .failed (.transmit found failed (by simp [present]))
        · next parting circuit served =>
            have own : circuit.session.id = session.id := (Circuit.Receives.of_read served).id
            have closing := closeSession_path (site.overCircuit circuit) circuit.session parting
              (Roster.find?_update_self (own ▸ found))
            rw [own] at closing
            exact .turn (.read found served (by simp [present])) closing
        · next disposition circuit openStill served =>
            cases disposition with
            | unfinished => exact .single (.read found served (by simp [present]))
            | idle => exact .single (.read found served (by simp [present]))
            | closed parting => exact absurd rfl (openStill parting)
  · split
    · exact .turn (.hungUp found) (closeSession_path site session .hangUp found)
    · exact .done _

theorem serveClient_path (site : Site) (id : Nat) (flags : Kernel.Flags) :
    Path (.rest site) (site.serveClient id flags).1 (.rest (site.serveClient id flags).2) := by
  unfold serveClient
  split
  · exact .done _
  · next session found =>
      obtain ⟨_, rfl⟩ := Roster.mem_of_find? found
      split
      · have same : (site.kernel.line session).flush.2.session.id = session.id :=
          (Line.flush_sends (site.kernel.line session)).id
        split
        · next parting line failed =>
            rw [failed] at same
            have closing := closeSession_path (site.overLine line) line.session parting
              (Roster.find?_update_self (same ▸ found))
            rw [same] at closing
            exact .turn (.broke found failed) closing
        · next line flushed =>
            rw [flushed] at same
            have reading := readClient_path (site.overLine line) line.session flags
              (Roster.find?_update_self (same ▸ found))
            exact .turn (.flushed found flushed) reading
      · exact readClient_path site session flags found

/-! ## A pass -/

theorem ready_path (site : Site) :
    Path (.rest site) (site.ready.1.map fun _ => ()) (.rest site.ready.2) := by
  have polled := Turn.polled site
  unfold ready
  dsimp only
  split
  · next reports kernel made =>
      rw [made] at polled
      exact .single (polled (by simp))
  · next errno kernel made =>
      rw [made] at polled
      by_cases harmless : errno = .interrupted
      · rw [if_pos harmless]
        exact .single (polled (by simpa using harmless))
      · rw [if_neg harmless]
        exact .failed (.poll made harmless)

theorem serve_path (site : Site) (source : Source) (flags : Kernel.Flags)
    (ordered : site.relay.roster.Ordered) :
    Path (.rest site) (site.serve source flags).1 (.rest (site.serve source flags).2) := by
  cases source with
  | tunnel => exact readTunnel_path site ordered
  | channel => exact acceptClients_path site
  | client id => exact serveClient_path site id flags

theorem serveAll_path (sources : List (Source × Kernel.Flags)) (site : Site)
    (ordered : site.relay.roster.Ordered) :
    Path (.rest site) (site.serveAll sources).1 (.rest (site.serveAll sources).2) := by
  induction sources generalizing site with
  | nil => exact .done _
  | cons source rest ih =>
      obtain ⟨source, flags⟩ := source
      have served := serve_path site source flags ordered
      unfold serveAll
      split
      · next failure after failed =>
          rw [failed] at served
          exact served
      · next after passed =>
          rw [passed] at served
          exact served.trans rfl (ih after (served.ordered ordered))

theorem pass_path (site : Site) (ordered : site.relay.roster.Ordered) :
    Path (.rest site) site.pass.1 (.rest site.pass.2) := by
  have polled := ready_path site
  unfold pass
  split
  · next failure after failed =>
      rw [failed] at polled
      exact polled
  · next sources after passed =>
      rw [passed] at polled
      exact polled.trans rfl (serveAll_path sources after (polled.ordered ordered))

/-! ## Shutting down -/

theorem closeSessions_path (sessions : List Session) (site : Site) :
    Path (.rest { site with relay.roster.sessions := sessions }) (.ok ())
      (.rest (sessions.foldl absorb { site with relay.roster.sessions := [] })) := by
  induction sessions generalizing site with
  | nil => exact .done _
  | cons session others ih => exact .turn (.dismissed rfl) (ih (site.absorb session))

theorem shutdown_path (site : Site) : Path (.rest site) (.ok ()) (.rest site.shutdown) := by
  have marked := Turn.marked site false
  unfold shutdown
  dsimp only
  split
  · exact .single marked
  · refine .turn marked (.turn (.closedTunnel _) ?_)
    refine (closeSessions_path _ (closeTunnel _)).trans rfl ?_
    exact .turn (.closedChannel _) (.single (.noted _ _ rfl))

end Site
end PacketRelay
