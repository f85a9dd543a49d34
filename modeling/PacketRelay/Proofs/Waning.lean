import PacketRelay.Proofs.Composure
import PacketRelay.Proofs.Rounds

/-!
A source that has nothing to give at a poll has nothing to give for the rest of
the pass: a pass only uses up what the world has supplied.
-/

namespace PacketRelay

open Kernel (Call Descriptor Endpoint Flags Handle Knock)

/-! ## Endpoints -/

namespace Kernel.Endpoint

theorem write_inbound (bytes : Bytes) (endpoint : Endpoint) :
    (endpoint.write bytes).2.inbound = endpoint.inbound :=
  (endpoint.write_alike bytes).inbound

theorem write_silent (bytes : Bytes) (endpoint : Endpoint) (silent : endpoint.Silent) :
    (endpoint.write bytes).2.Silent := by
  unfold Silent
  rw [write_inbound]
  exact silent

theorem write_blocked (bytes : Bytes) (endpoint : Endpoint) (blocked : endpoint.Blocked) :
    (endpoint.write bytes).2.Blocked := by
  obtain ⟨inbound, outbound, room, forced⟩ := endpoint
  obtain ⟨interruptions, full⟩ := blocked
  cases outbound with
  | nil =>
      obtain rfl : room = some 0 := full
      exact ⟨interruptions, rfl⟩
  | cons intake later =>
      have rest : ∀ other ∈ later, other.isInterruption = true := fun other member =>
        interruptions other (List.mem_cons_of_mem _ member)
      cases intake <;> exact ⟨rest, full⟩

theorem readStream_silent (size : Nat) (endpoint : Endpoint) (silent : endpoint.Silent) :
    (endpoint.readStream size).2.Silent := by
  obtain ⟨inbound, outbound, room, forced⟩ := endpoint
  unfold readStream
  split
  · exact silent
  · cases inbound with
    | nil => exact silent
    | cons arrival later =>
        have interruption := silent arrival List.mem_cons_self
        cases arrival with
        | failure errno => exact fun other member => silent other (List.mem_cons_of_mem _ member)
        | data | ended => cases interruption

theorem readStream_outbound (size : Nat) (endpoint : Endpoint) :
    (endpoint.readStream size).2.outbound = endpoint.outbound ∧
      (endpoint.readStream size).2.room = endpoint.room := by
  unfold readStream
  split
  · exact ⟨rfl, rfl⟩
  · split
    · exact ⟨rfl, rfl⟩
    · exact ⟨rfl, rfl⟩
    · exact ⟨rfl, rfl⟩
    · split <;> exact ⟨rfl, rfl⟩

theorem readStream_blocked (size : Nat) (endpoint : Endpoint) (blocked : endpoint.Blocked) :
    (endpoint.readStream size).2.Blocked := by
  obtain ⟨outbound, room⟩ := readStream_outbound size endpoint
  unfold Blocked
  rw [outbound, room]
  exact blocked

theorem readPacket_silent (size : Nat) (endpoint : Endpoint) (silent : endpoint.Silent) :
    (endpoint.readPacket size).2.Silent := by
  obtain ⟨inbound, outbound, room, forced⟩ := endpoint
  unfold readPacket
  split
  · exact silent
  · cases inbound with
    | nil => exact silent
    | cons arrival later =>
        have rest : ∀ other ∈ later, other.isInterruption = true := fun other member =>
          silent other (List.mem_cons_of_mem _ member)
        cases arrival <;> exact rest

theorem report_inbound (requested : Flags) (endpoint : Endpoint) :
    (endpoint.report requested).2.inbound = endpoint.inbound ∧
      (endpoint.report requested).2.outbound = endpoint.outbound ∧
      (endpoint.report requested).2.room = endpoint.room := by
  unfold report
  split <;> exact ⟨rfl, rfl, rfl⟩

end Kernel.Endpoint

/-! ## Kernels -/

def Kernel.Quiet (kernel : Kernel) : Prop :=
  ∀ knock ∈ kernel.knocks, knock.isInterruption = true

/-- Whoever had nothing to give or to take still has nothing. -/
structure Kernel.Wanes (before after : Kernel) : Prop where
  tunnel : before.tunnel.Silent → after.tunnel.Silent
  channel : before.Quiet → after.Quiet
  silent : ∀ label, (before.client label).Silent → (after.client label).Silent
  blocked : ∀ label, (before.client label).Blocked → (after.client label).Blocked

namespace Kernel.Wanes

variable {before middle after kernel : Kernel}

theorem refl (kernel : Kernel) : Wanes kernel kernel :=
  ⟨id, id, fun _ => id, fun _ => id⟩

theorem trans (first : Wanes before middle) (second : Wanes middle after) : Wanes before after where
  tunnel := second.tunnel ∘ first.tunnel
  channel := second.channel ∘ first.channel
  silent label := second.silent label ∘ first.silent label
  blocked label := second.blocked label ∘ first.blocked label

theorem untouched (tunnel : after.tunnel = before.tunnel) (knocks : after.knocks = before.knocks)
    (clients : after.clients = before.clients) : Wanes before after where
  tunnel silent := tunnel ▸ silent
  channel quiet := by
    unfold Quiet
    rw [knocks]
    exact quiet
  silent label silent := by
    unfold client
    rw [clients]
    exact silent
  blocked label blocked := by
    unfold client
    rw [clients]
    exact blocked

theorem call (kernel : Kernel) (made : Call) : Wanes kernel (kernel.call made) :=
  .untouched rfl rfl rfl

theorem setClient {label : Nat} {endpoint : Endpoint}
    (silent : (kernel.client label).Silent → endpoint.Silent)
    (blocked : (kernel.client label).Blocked → endpoint.Blocked) :
    Wanes kernel (kernel.setClient label endpoint) where
  tunnel := id
  channel := id
  silent other was := by
    rw [client_setClient]
    split
    · next own => exact silent (own ▸ was)
    · exact was
  blocked other was := by
    rw [client_setClient]
    split
    · next own => exact blocked (own ▸ was)
    · exact was

theorem overLine {session : Session} {line : Line}
    (sends : Line.Sends (kernel.line session) line)
    (silent : (kernel.client session.label).Silent → line.stream.Silent)
    (blocked : (kernel.client session.label).Blocked → line.stream.Blocked) :
    Wanes kernel (kernel.overLine line) := by
  have own : line.session.label = session.label := sends.label
  unfold Kernel.overLine
  rw [own]
  exact (setClient silent blocked).trans (.untouched rfl rfl rfl)

theorem reportOn (descriptor : Descriptor) (requested : Flags) (kernel : Kernel) :
    Wanes kernel (kernel.reportOn descriptor requested).2 := by
  cases descriptor with
  | tunnel =>
      obtain ⟨inbound, _⟩ := kernel.tunnel.report_inbound requested
      refine ⟨fun silent => ?_, id, fun _ => id, fun _ => id⟩
      change Endpoint.Silent (kernel.tunnel.report requested).2
      unfold Endpoint.Silent
      rw [inbound]
      exact silent
  | channel =>
      unfold Kernel.reportOn
      dsimp only
      split
      · exact .untouched rfl rfl rfl
      · exact .refl kernel
  | client label =>
      obtain ⟨inbound, outbound, room⟩ := (kernel.client label).report_inbound requested
      refine setClient (fun silent => ?_) fun blocked => ?_
      · change Endpoint.Silent ((kernel.client label).report requested).2
        unfold Endpoint.Silent
        rw [inbound]
        exact silent
      · change Endpoint.Blocked ((kernel.client label).report requested).2
        unfold Endpoint.Blocked
        rw [outbound, room]
        exact blocked

theorem reports (watched : List (Descriptor × Flags)) (kernel : Kernel) :
    Wanes kernel (kernel.reports watched).2 := by
  induction watched generalizing kernel with
  | nil => exact .refl kernel
  | cons entry rest ih => exact (reportOn entry.1 entry.2 kernel).trans (ih _)

theorem poll (timeout : Nat) (watched : List (Descriptor × Flags)) (kernel : Kernel) :
    Wanes kernel (kernel.poll timeout watched).2 := by
  have reported := reports watched kernel
  unfold Kernel.poll
  dsimp only
  split
  · exact reported.trans (.untouched rfl rfl rfl)
  · exact reported.trans (.untouched rfl rfl rfl)

theorem accept {channel : Channel} {result : Except Errno (Option Nat)}
    (made : channel.accept kernel = (result, after)) : Wanes kernel after := by
  obtain ⟨_, later, ⟨new, notices⟩, taking, _, always⟩ :=
    Channel.accept_spec channel kernel.knocks kernel.faults.resize
  change Channel.Taking _ _ _ new at taking
  have behind : later <:+ kernel.knocks := by
    cases taking with
    | without _ suffix => exact suffix
    | ready before split =>
        rw [split]
        exact (List.suffix_cons _ later).trans (List.suffix_append before _)
    | refused before split =>
        rw [split]
        exact (List.suffix_cons _ later).trans (List.suffix_append before _)
  rw [always kernel rfl rfl] at made
  cases made
  exact ⟨id, fun quiet knock member => quiet knock (behind.subset member), fun _ => id, fun _ => id⟩

end Kernel.Wanes

open Kernel (Wanes)

/-! ## Turns and failures -/

theorem Site.receive_wanes {site : Site} {size : Nat} {handle : Handle}
    {received : Except Errno (Option Bytes)}
    (made : Tunnel.receive size site.kernel.tunnelHandle = (received, handle)) :
    site.kernel.Wanes (site.overTunnel handle).kernel := by
  have read := (Handle.readPacket_retries size).keeps (Endpoint.readPacket_silent size)
    site.kernel.tunnelHandle
  rw [Tunnel.receive_eq] at made
  cases made
  exact ⟨read, id, fun _ => id, fun _ => id⟩

theorem Site.read_wanes {site : Site} {session : Session} {name : String} {budget : Nat}
    {circuit : Circuit} {result : Except Errno Disposition}
    (served : (site.kernel.circuit session).read name Tunnel.maxPacketSize budget =
      (result, circuit)) : site.kernel.Wanes (site.overCircuit circuit).kernel := by
  have silent := Circuit.read_keeps Endpoint.readStream_silent name Tunnel.maxPacketSize budget
    (site.kernel.circuit session)
  have blocked := Circuit.read_keeps Endpoint.readStream_blocked name Tunnel.maxPacketSize budget
    (site.kernel.circuit session)
  have tunnel := Circuit.read_tunnel name Tunnel.maxPacketSize budget (site.kernel.circuit session)
  rw [served] at silent blocked tunnel
  have own : circuit.session.label = session.label := (Circuit.Receives.of_read served).label
  have stream : site.kernel.Wanes (site.kernel.setClient session.label circuit.stream) :=
    .setClient silent blocked
  unfold Site.overCircuit Kernel.overCircuit Kernel.overLine
  rw [own]
  refine ⟨fun silent => ?_, id, stream.silent, stream.blocked⟩
  change Endpoint.Silent circuit.tunnel
  unfold Endpoint.Silent
  rw [tunnel.inbound]
  exact silent

theorem Site.flush_wanes {site : Site} {session : Session} {line : Line}
    {result : Except Parting Unit} (flush : (site.kernel.line session).flush = (result, line)) :
    site.kernel.Wanes (site.overLine line).kernel := by
  have silent := Line.flush_keeps Endpoint.write_silent (site.kernel.line session)
  have blocked := Line.flush_keeps Endpoint.write_blocked (site.kernel.line session)
  rw [flush] at silent blocked
  exact .overLine (.of_flush flush) silent blocked

theorem Turn.wanes (stage next : Stage) (turn : Turn stage next) :
    stage.site.kernel.Wanes next.site.kernel := by
  cases turn with
  | noted | hungUp | marked | left | dismissed => exact .untouched rfl rfl rfl
  | polled site => exact .poll _ _ site.kernel
  | idle received => exact Site.receive_wanes received
  | took received => exact Site.receive_wanes received
  | dropped received => exact Site.receive_wanes received
  | @offered site session packet offers leaving sending line found sent =>
      have silent := Line.send_keeps Endpoint.write_silent (Frame.wrap packet)
        (site.kernel.line session)
      have blocked := Line.send_keeps Endpoint.write_blocked (Frame.wrap packet)
        (site.kernel.line session)
      rw [sent] at silent blocked
      exact .overLine (.of_send sent) silent blocked
  | flushed found flush => exact Site.flush_wanes flush
  | broke found flush => exact Site.flush_wanes flush
  | read found served => exact Site.read_wanes served
  | accepted taken => exact (Kernel.Wanes.accept taken).trans (.untouched rfl rfl rfl)
  | refused taken => exact .accept taken
  | closedTunnel site =>
      unfold Site.closeTunnel
      split
      · exact .refl _
      · exact .untouched rfl rfl rfl
  | closedChannel site =>
      obtain ⟨_, _, _, _, _, made⟩ := site.closeChannel_spec
      rw [made]
      exact .untouched rfl rfl rfl

theorem Fatal.wanes (site : Site) (failure : Failure) (after : Site)
    (fatal : Fatal site failure after) : site.kernel.Wanes after.kernel := by
  cases fatal with
  | poll failed serious =>
      have polled := Kernel.Wanes.poll site.relay.pollTimeout
        ((Site.watched site.relay).map (·.2)) site.kernel
      rw [failed] at polled
      exact polled
  | receive failed => exact Site.receive_wanes failed
  | transmit found failed => exact Site.read_wanes failed

theorem Path.wanes {stage last : Stage} {result : Except Failure Unit}
    (path : Path stage result last) : stage.site.kernel.Wanes last.site.kernel := by
  induction path with
  | done => exact .refl _
  | turn step _ ih => exact (step.wanes _ _).trans ih
  | failed fatal => exact fatal.wanes _ _ _

end PacketRelay
