import PacketRelay.Proofs.Statistics

/-!
What a pass changes of the relay itself: the roster and the counters, and
nothing else. The tunnel and the channel stay as they are, open or not.
-/

namespace PacketRelay

def Relay.Evolves (before after : Relay) : Prop :=
  ∃ roster fromTunnel unframeable connections retired,
    after = { before with roster, fromTunnel, unframeable, connections, retired }

namespace Relay.Evolves

variable {before middle after : Relay}

theorem refl (relay : Relay) : Evolves relay relay := ⟨_, _, _, _, _, rfl⟩

theorem trans (first : Evolves before middle) (second : Evolves middle after) :
    Evolves before after := by
  obtain ⟨_, _, _, _, _, rfl⟩ := first
  obtain ⟨_, _, _, _, _, rfl⟩ := second
  exact ⟨_, _, _, _, _, rfl⟩

theorem tunnel (evolves : Evolves before after) : after.tunnel = before.tunnel := by
  obtain ⟨_, _, _, _, _, rfl⟩ := evolves
  rfl

theorem channel (evolves : Evolves before after) : after.channel = before.channel := by
  obtain ⟨_, _, _, _, _, rfl⟩ := evolves
  rfl

theorem readMode (evolves : Evolves before after) : after.readMode = before.readMode := by
  obtain ⟨_, _, _, _, _, rfl⟩ := evolves
  rfl

end Relay.Evolves

namespace Site

open Relay (Evolves)

theorem fanOut_evolves (frame : Bytes) (site : Site) :
    Evolves site.relay (site.fanOut frame).relay := by
  unfold fanOut
  dsimp only
  obtain ⟨retired, same⟩ := retireAll_relay
    (site.relay.roster.broadcast frame site.kernel).1.closed _
  rw [same]
  split <;> exact ⟨_, _, _, _, _, rfl⟩

theorem relayPacket_evolves (name : String) (packet : Bytes) (site : Site) :
    Evolves site.relay (site.relayPacket name packet).relay := by
  have counted : Evolves site.relay (site.countPacket name packet).relay := by
    rw [countPacket_relay]
    exact ⟨_, _, _, _, _, rfl⟩
  unfold relayPacket
  dsimp only
  split
  · exact counted.trans (fanOut_evolves _ _)
  · exact counted.trans ⟨_, _, _, _, _, rfl⟩

theorem readTunnel_evolves (site : Site) : Evolves site.relay site.readTunnel.2.relay := by
  fun_induction readTunnel site with
  | case1 site absent => exact .refl _
  | case2 site name present errno handle failed => exact .refl _
  | case3 site name present handle received => exact .refl _
  | case4 site name present packet handle received after single =>
      exact relayPacket_evolves name packet (site.overTunnel handle)
  | case5 site name present packet handle received after drain ih =>
      exact .trans (relayPacket_evolves name packet (site.overTunnel handle)) ih

theorem acceptClients_evolves (site : Site) : Evolves site.relay site.acceptClients.relay := by
  fun_induction acceptClients site with
  | case1 site kernel taken => exact .refl _
  | case2 site errno kernel taken => exact .refl _
  | case3 site label kernel taken ih => exact .trans ⟨_, _, _, _, _, rfl⟩ ih

theorem closeSession_evolves (id : Nat) (parting : Parting) (site : Site) :
    Evolves site.relay (site.closeSession id parting).relay := by
  unfold closeSession
  split
  · exact .refl _
  · exact ⟨_, _, _, _, _, rfl⟩

theorem readClient_evolves (session : Session) (flags : Kernel.Flags) (site : Site) :
    Evolves site.relay (site.readClient session flags).2.relay := by
  have put (circuit : Circuit) : Evolves site.relay (site.overCircuit circuit).relay :=
    ⟨_, _, _, _, _, rfl⟩
  unfold readClient
  split
  · split
    · exact .refl _
    · split
      · next errno circuit failed => exact put circuit
      · next parting circuit served => exact (put circuit).trans (closeSession_evolves _ _ _)
      · next disposition circuit _ served => exact put circuit
  · split
    · exact closeSession_evolves _ _ _
    · exact .refl _

theorem serveClient_evolves (id : Nat) (flags : Kernel.Flags) (site : Site) :
    Evolves site.relay (site.serveClient id flags).2.relay := by
  have put (line : Line) : Evolves site.relay (site.overLine line).relay := ⟨_, _, _, _, _, rfl⟩
  unfold serveClient
  split
  · exact .refl _
  · split
    · split
      · next parting line failed => exact (put line).trans (closeSession_evolves _ _ _)
      · next line flushed => exact (put line).trans (readClient_evolves _ _ _)
    · exact readClient_evolves _ _ _

theorem serve_evolves (source : Source) (flags : Kernel.Flags) (site : Site) :
    Evolves site.relay (site.serve source flags).2.relay := by
  cases source with
  | tunnel => exact readTunnel_evolves site
  | channel => exact acceptClients_evolves site
  | client id => exact serveClient_evolves id flags site

theorem serveAll_evolves (sources : List (Source × Kernel.Flags)) (site : Site) :
    Evolves site.relay (site.serveAll sources).2.relay := by
  induction sources generalizing site with
  | nil => exact .refl _
  | cons first rest ih =>
      obtain ⟨source, flags⟩ := first
      have served := serve_evolves source flags site
      unfold serveAll
      split
      · next failure after failed =>
          rw [failed] at served
          exact served
      · next after passed =>
          rw [passed] at served
          exact served.trans (ih after)

theorem pass_evolves (site : Site) : Evolves site.relay site.pass.2.relay := by
  have polled := ready_relay site
  unfold pass
  split
  · next failure after failed =>
      rw [failed] at polled
      rw [polled]
      exact .refl _
  · next sources after passed =>
      rw [passed] at polled
      rw [← polled]
      exact serveAll_evolves sources after

end Site
end PacketRelay
