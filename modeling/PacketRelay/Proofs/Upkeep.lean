import PacketRelay.Proofs.Counting
import PacketRelay.Proofs.Delivery
import PacketRelay.Proofs.Holding
import PacketRelay.Proofs.Visits

/-!
What holds of a relay whenever nothing is being done with it. Main statement: at
every site that is reached the tunnel and the channel are open together or gone
together, every session on the roster is connected and its decoder has not failed,
ids are in order, and what is kept for one client is bounded.
-/

namespace PacketRelay

open PacketRelay.Frame.Decoder (Holding Failed)

/-! ## Decoders -/

namespace Frame.Decoder

/-- The bytes held fall short of the largest frame. -/
theorem Holding.bounded {decoder : Decoder} {held : Bytes} (holding : Holding decoder held) :
    decoder.buffered ≤ 65538 := by
  have waits := holding.waiting
  cases decoder with
  | header seen =>
      have short : seen.length < headerLength := waits
      simp only [headerLength] at short
      simp only [buffered]
      omega
  | payload missing seen =>
      obtain ⟨someMissing, bound⟩ := waits
      simp only [maxLength] at bound
      simp only [buffered, headerLength]
      omega

end Frame.Decoder

def Session.Decodes (session : Session) : Prop :=
  ∃ held, Holding session.decoder held

namespace Circuit

theorem forward_decodes (name : String) (input : Bytes) (circuit : Circuit)
    (decodes : circuit.session.Decodes)
    (legal : ∀ violation, (circuit.forward name input).1 ≠ .ok (some violation)) :
    (circuit.forward name input).2.session.Decodes := by
  fun_induction forward name input circuit with
  | case1 circuit => exact decodes
  | case2 input circuit someInput violation decoder rest decoded =>
      exact absurd rfl (legal violation)
  | case3 input circuit someInput decoder rest decoded ih =>
      obtain ⟨held, holding⟩ := decodes
      obtain ⟨used, split⟩ := circuit.session.decoder.decode_rest input
      rw [decoded] at split
      rw [← split] at decoded
      exact ih ⟨_, .waited holding decoded⟩ legal
  | case4 input circuit someInput packet decoder rest decoded errno after failed =>
      obtain ⟨held, holding⟩ := decodes
      have kept := decoder_of_forwarded failed
      exact ⟨[], kept ▸ .found holding decoded⟩
  | case5 input circuit someInput packet decoder rest decoded after passed ih =>
      obtain ⟨held, holding⟩ := decodes
      have kept := decoder_of_forwarded passed
      exact ih ⟨[], kept ▸ .found holding decoded⟩ legal

/-- The decoder fails only if that ends the session, also where the tunnel fails. -/
theorem serve_decodes (name : String) (size budget : Nat) (circuit : Circuit)
    (decodes : circuit.session.Decodes)
    (legal : ∀ violation,
      (circuit.serve name size budget).1 ≠ .ok (.closed (.protocol violation))) :
    (circuit.serve name size budget).2.session.Decodes := by
  induction budget generalizing circuit with
  | zero => exact decodes
  | succ budget ih =>
      unfold serve at legal ⊢
      split
      · exact decodes
      · next bytes handle someBytes made =>
          rw [made] at legal
          have forwarded := forward_decodes name bytes (circuit.overStream handle) decodes
          split
          · next errno after failed =>
              rw [failed] at forwarded
              exact forwarded (by rintro violation ⟨⟩)
          · next violation after broken =>
              simp only [broken] at legal
              exact absurd rfl (legal violation)
          · next after passed =>
              rw [passed] at forwarded
              simp only [passed] at legal
              exact ih after (forwarded (by rintro violation ⟨⟩)) legal
      · split
        · exact decodes
        · exact decodes

theorem read_decodes (name : String) (size budget : Nat) (circuit : Circuit)
    (decodes : circuit.session.Decodes)
    (legal : ∀ violation,
      (circuit.read name size budget).1 ≠ .ok (.closed (.protocol violation))) :
    (circuit.read name size budget).2.session.Decodes := by
  unfold read at legal ⊢
  split
  · next connected =>
      rw [if_pos connected] at legal
      exact serve_decodes name size budget circuit decodes legal
  · exact decodes

end Circuit

theorem Line.Sends.decodes {before after : Line} (sends : Line.Sends before after)
    (decodes : before.session.Decodes) : after.session.Decodes := by
  obtain ⟨_, _, _, _, session⟩ := sends.session
  rw [session]
  exact decodes

theorem sturdy_decodes : Session.Sturdy Session.Decodes where
  fresh _ _ := ⟨[], .fresh⟩
  sent frame line decodes _ := (Line.send_sends frame line).decodes decodes
  flushed line decodes _ := (Line.flush_sends line).decodes decodes
  read name size budget circuit decodes stays := by
    refine Circuit.read_decodes name size budget circuit decodes ?_
    intro violation broken
    rw [broken] at stays
    cases stays

/-! ## Sites that are reached -/

namespace Site

theorem lasting_decodes : Lasting (Stage.Each Session.Decodes) where
  turn := Turn.each sturdy_decodes
  deed _ _ _ each := each
  opened site opened := by
    intro session member
    have nobody : (Stage.rest site).site.relay.roster.sessions = [] := by rw [opened.roster]
    rw [nobody] at member
    cases member
  failing site failure after fatal _ each := fatal.each sturdy_decodes site failure after each
  flagged _ _ each := each

theorem lasting_counted : Lasting fun stage => stage.site.Counted where
  toKept := counted_kept
  opened _ opened := opened.counted
  failing site failure after fatal sound counted := fatal.counted site failure after sound counted
  flagged _ _ counted := counted.aside [] rfl (by simp) rfl rfl rfl rfl counted.connections

theorem lasting_streams : Lasting Stage.Streams where
  toKept := streams_kept
  opened _ opened := opened.streams
  failing site failure after fatal _ streams := fatal.streams site failure after streams
  flagged _ _ streams := streams.aside [] rfl (by simp) rfl fun _ member => ⟨member, id⟩

structure Accounted (site : Site) : Prop where
  sound : Stage.Sound (.rest site)
  counted : site.Counted

namespace Accounted

variable {site last : Site}

theorem issued (accounted : site.Accounted) :
    site.relay.roster.issued = (History.enrolled site.calls).length := by
  obtain ⟨frontier, numbered⟩ := accounted.sound.numbered
  exact numbered.issued

theorem connections (accounted : site.Accounted) :
    site.relay.totals.connections = (History.enrolled site.calls).length :=
  accounted.counted.connections.trans accounted.issued

/-- A path, whether it fails or not, leaves them so. -/
theorem path {result : Except Failure Unit} (accounted : site.Accounted)
    (path : Path (.rest site) result (.rest last)) : last.Accounted := by
  obtain ⟨sound, counted⟩ := path_kept counted_kept path
    (.inr fun site failure after fatal sound counted =>
      fatal.counted site failure after sound counted)
    ⟨accounted.sound, accounted.counted⟩
  exact ⟨sound, counted⟩

end Accounted

theorem Reachable.accounted {site : Site} (reachable : site.Reachable) : site.Accounted :=
  ⟨reachable.sound, (reachable.lasting lasting_counted).2⟩

structure Keeps (session : Session) : Prop where
  connected : session.connected = true
  decodes : ∃ held, Holding session.decoder held
  unfailed : ¬ Failed session.decoder
  decoder : session.decoder.buffered ≤ 65538
  pending : session.pending.length ≤ 65538

structure Intact (site : Site) : Prop where
  paired : site.relay.tunnel.isSome ↔ site.relay.channel.isOpen = true
  deserted : site.relay.tunnel = none → site.relay.roster.sessions = []
  sessions : ∀ session ∈ site.relay.roster.sessions, Keeps session
  ids : (site.relay.roster.sessions.map (·.id)).Pairwise (· < ·)
  numbered : ∀ session ∈ site.relay.roster.sessions,
    session.id ≤ site.relay.totals.connections
  /-- One id has been given out for each client that was enrolled. -/
  issued : site.relay.totals.connections = site.relay.roster.issued ∧
    site.relay.totals.connections = (History.enrolled site.calls).length

namespace Reachable

variable {site : Site} {session : Session}

theorem paired (reachable : site.Reachable) :
    site.relay.tunnel.isSome = site.relay.channel.isOpen := by
  induction reachable with
  | opened opened =>
      obtain ⟨name, channel, settings, isOpen, relay⟩ := opened.relay
      simp [relay, Relay.withTunnel, isOpen]
  | @moved site _ made ih =>
      cases made with
      | world deed => exact ih
      | pass =>
          have evolves := site.pass_evolves
          change site.pass.2.relay.tunnel.isSome = site.pass.2.relay.channel.isOpen
          rw [evolves.tunnel, evolves.channel, ih]
      | shutdown =>
          have ended := site.shutdown_ended
          change site.shutdown.relay.tunnel.isSome = site.shutdown.relay.channel.isOpen
          rw [ended.tunnel, ended.channel]
          rfl
  | flagged _ _ ih => exact ih
  | begun _ ih => exact ih
  | reported _ _ ih => exact ih

theorem deserted (reachable : site.Reachable) (absent : site.relay.tunnel = none) :
    site.relay.roster.sessions = [] := by
  rcases reachable.equipped with present | nothing
  · rw [absent] at present
    cases present
  · simp only [watched, List.append_eq_nil_iff, List.map_eq_nil_iff] at nothing
    exact nothing.2

/-- A tail that is to be sent is shorter than the frame it is the end of, and that frame
carries a packet which fits. -/
theorem pending_bounded (reachable : site.Reachable)
    (member : session ∈ site.relay.roster.sessions) : session.pending.length ≤ 65538 := by
  obtain ⟨packets, owes, given⟩ :=
    ((reachable.lasting lasting_streams).2.streaming session member).frames
  by_cases nothing : session.pending = []
  · simp [nothing]
  · obtain ⟨last, isLast, suffix, different⟩ := owes.proper nothing
    obtain ⟨packet, inside, rfl⟩ := List.mem_map.mp (List.mem_of_getLast? isLast)
    have fits := (History.fits_of_packetsSince (given.subset (List.mem_append_left _ inside))).2
    have shorter : session.pending.length < (Frame.wrap packet).length :=
      Nat.lt_of_le_of_ne suffix.length_le fun same => different (suffix.eq_of_length same)
    rw [Frame.length_wrap] at shorter
    simp only [Frame.headerLength, Frame.maxLength] at shorter fits
    omega

theorem keeps (reachable : site.Reachable) (member : session ∈ site.relay.roster.sessions) :
    Keeps session := by
  obtain ⟨held, holding⟩ := (reachable.lasting lasting_decodes).2.rest member
  exact {
    connected := reachable.sound.rest_connected member
    decodes := ⟨held, holding⟩
    unfailed := holding.not_failed
    decoder := holding.bounded
    pending := reachable.pending_bounded member }

end Reachable

/-- Whatever a relay and the world have done, failed passes and shutdowns among it, the
tunnel is there if and only if the channel is, and without them there are no sessions.
Each session is connected, none of its frames has been illegal, and neither the frame it
is in the middle of nor the one that is half sent takes up more than a frame's length.
Ids rise along the roster and none is above the number of connections, which is how many
have been given out. -/
theorem kept_intact (site : Site) (reachable : site.Reachable) : site.Intact where
  paired := by rw [reachable.paired]
  deserted := reachable.deserted
  sessions _ member := reachable.keeps member
  ids := List.pairwise_map.mpr reachable.sound.ordered.ids
  numbered session member := by
    have bound := reachable.sound.ordered.issued session member
    rwa [reachable.accounted.issued, ← reachable.accounted.connections] at bound
  issued :=
    ⟨reachable.accounted.counted.connections, reachable.accounted.connections⟩

/-- A pass that fails in the middle of what one client has sent, while another has been
sent half a frame. -/
theorem kept_intact_by_failure :
    let site := (fresh {}).play [.world (.connect 2 none), .pass,
      .world (.supplyTunnel { inbound := [.data [7]], outbound := [.failure .noDevice] }),
      .world (.supplyClient 2 { outbound := [.upTo 3], room := some (some 0) }),
      .world (.supplyClient 1 { inbound := [.data [0, 0, 0, 1, 9, 0]] })]
    site.Reachable ∧ site.pass.1 = .error (.tunnelIo .noDevice) ∧
      site.pass.2.relay.roster.sessions.map (fun session => (session.id, session.pending)) =
        [(1, []), (2, [1, 7])] ∧
      site.pass.2.Intact ∧ site.pass.2.shutdown.Intact := by
  have reachable : ∀ moves, ((fresh {}).play moves).Reachable :=
    fun moves => .play (.opened (fresh_opened _)) moves
  have intact (site : Site) (reached : site.Reachable) :
      site.pass.2.Intact ∧ site.pass.2.shutdown.Intact :=
    ⟨kept_intact _ reached.pass, kept_intact _ reached.pass.shutdown⟩
  exact ⟨reachable _, Failure.of_eq_some.mp (by decide +kernel), by decide +kernel,
    intact _ (reachable _)⟩

end Site
end PacketRelay
