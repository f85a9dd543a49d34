import PacketRelay.Proofs.Dispatch
import PacketRelay.Proofs.Steadiness

/-!
Sites that differ only in interruptions. What is done for the tunnel, the
channel and the clients comes to the same on both, and serving a source that has
nothing to give changes neither.
-/

namespace PacketRelay

open Kernel (Call Descriptor Endpoint Flags Handle Knock)

/-! ## Kernels -/

/-- What is left of a kernel without its clients and its record, when no
interruption is to come. -/
def Kernel.calm (kernel : Kernel) : Kernel :=
  { kernel with
    tunnel := kernel.tunnel.calm, clients := [], record := {}
    knocks := kernel.knocks.filter (!·.isInterruption) }

structure Kernel.Matches (one two : Kernel) : Prop where
  calm : one.calm = two.calm
  clients : ∀ label, (one.client label).calm = (two.client label).calm
  record : one.record.effects = two.record.effects

namespace Kernel.Matches

variable {one two three kernel : Kernel}

theorem refl (kernel : Kernel) : Matches kernel kernel := ⟨rfl, fun _ => rfl, rfl⟩

theorem symm (same : Matches one two) : Matches two one :=
  ⟨same.calm.symm, fun label => (same.clients label).symm, same.record.symm⟩

theorem trans (first : Matches one two) (second : Matches two three) : Matches one three where
  calm := first.calm.trans second.calm
  clients label := (first.clients label).trans (second.clients label)
  record := first.record.trans second.record

theorem tunnel (same : Matches one two) : one.tunnel.calm = two.tunnel.calm :=
  congrArg Kernel.tunnel same.calm

theorem knocks (same : Matches one two) :
    one.knocks.filter (!·.isInterruption) = two.knocks.filter (!·.isInterruption) :=
  congrArg Kernel.knocks same.calm

theorem faults (same : Matches one two) : one.faults = two.faults := by
  have calm := congrArg Kernel.faults same.calm
  exact calm

theorem files (same : Matches one two) : one.files = two.files := by
  have calm := congrArg Kernel.files same.calm
  exact calm

theorem pollFaults (same : Matches one two) : one.pollFaults = two.pollFaults := by
  have calm := congrArg Kernel.pollFaults same.calm
  exact calm

theorem channelForced (same : Matches one two) : one.channelForced = two.channelForced := by
  have calm := congrArg Kernel.channelForced same.calm
  exact calm

theorem withRecord (same : Matches one two) {left right : Record}
    (record : left.effects = right.effects) :
    Matches { one with record := left } { two with record := right } :=
  ⟨same.calm, same.clients, record⟩

theorem call (same : Matches one two) (made : Call) : Matches (one.call made) (two.call made) :=
  same.withRecord (Record.effects_call same.record made)

theorem idle (kernel : Kernel) {made : Call} (idle : made.isIdle = true) :
    Matches (kernel.call made) kernel :=
  ⟨rfl, fun _ => rfl, Record.effects_idle kernel.record idle⟩

theorem note (same : Matches one two) (notice other : Log.Notice) :
    Matches (one.note notice) (two.note other) :=
  ⟨same.calm, same.clients, same.record⟩

theorem setClient (same : Matches one two) (label : Nat) {left right : Endpoint}
    (streams : left.calm = right.calm) :
    Matches (one.setClient label left) (two.setClient label right) where
  calm := same.calm
  clients other := by
    rw [Kernel.client_setClient, Kernel.client_setClient]
    split
    · exact streams
    · exact same.clients other
  record := same.record

theorem setClient_self (kernel : Kernel) (label : Nat) {endpoint : Endpoint}
    (stream : endpoint.calm = (kernel.client label).calm) :
    Matches (kernel.setClient label endpoint) kernel where
  calm := rfl
  clients other := by
    rw [Kernel.client_setClient]
    split
    · next own => rw [own, stream]
    · rfl
  record := rfl

theorem line (same : Matches one two) (session : Session) :
    (one.line session).Matches (two.line session) :=
  ⟨rfl, same.clients session.label, same.record⟩

theorem overLine (same : Matches one two) {left right : Line} (lines : left.Matches right) :
    Matches (one.overLine left) (two.overLine right) := by
  unfold Kernel.overLine
  rw [← lines.session]
  exact (same.setClient _ lines.stream).withRecord lines.record

theorem overLine_self {session : Session} {line : Line}
    (lines : line.Matches (kernel.line session)) : Matches (kernel.overLine line) kernel := by
  unfold Kernel.overLine
  rw [lines.session]
  exact (setClient_self kernel _ lines.stream).withRecord lines.record

theorem circuit (same : Matches one two) (session : Session) :
    (one.circuit session).Matches (two.circuit session) :=
  ⟨same.line session, same.tunnel⟩

theorem withTunnel (same : Matches one two) {left right : Endpoint}
    (tunnels : left.calm = right.calm) :
    Matches { one with tunnel := left } { two with tunnel := right } where
  calm := by
    unfold Kernel.calm
    dsimp only
    rw [tunnels]
    exact congrArg (fun kernel : Kernel => { kernel with tunnel := right.calm }) same.calm
  clients := same.clients
  record := same.record

theorem overCircuit (same : Matches one two) {left right : Circuit}
    (circuits : left.Matches right) : Matches (one.overCircuit left) (two.overCircuit right) :=
  (same.overLine circuits.line).withTunnel circuits.tunnel

theorem tunnelHandle (same : Matches one two) : one.tunnelHandle.Matches two.tunnelHandle :=
  ⟨rfl, same.tunnel, same.record⟩

theorem overTunnel (same : Matches one two) {left right : Handle} (handles : left.Matches right) :
    Matches (one.overTunnel left) (two.overTunnel right) :=
  (same.withTunnel handles.endpoint).withRecord handles.record

theorem withKnocks (same : Matches one two) {left right : List Knock}
    (knocks : left.filter (!·.isInterruption) = right.filter (!·.isInterruption)) :
    Matches { one with knocks := left } { two with knocks := right } where
  calm := by
    unfold Kernel.calm
    dsimp only
    rw [knocks]
    exact congrArg (fun kernel : Kernel =>
      { kernel with knocks := right.filter (!·.isInterruption) }) same.calm
  clients := same.clients
  record := same.record

end Kernel.Matches

/-! ## The channel -/

def Kernel.Knock.Awake (knocks : List Knock) : Prop :=
  ∀ knock later, knocks = knock :: later → knock.isInterruption = false

theorem Kernel.Knock.awake_next {left right : List Knock}
    (same : left.filter (!·.isInterruption) = right.filter (!·.isInterruption))
    (awake : Awake left) (alsoAwake : Awake right) :
    left = [] ∧ right = [] ∨ ∃ knock rest others, left = knock :: rest ∧ right = knock :: others ∧
      rest.filter (!·.isInterruption) = others.filter (!·.isInterruption) := by
  cases left with
  | nil =>
      cases right with
      | nil => exact .inl ⟨rfl, rfl⟩
      | cons knock others => simp [alsoAwake knock others rfl] at same
  | cons knock rest =>
      cases right with
      | nil => simp [awake knock rest rfl] at same
      | cons other others =>
          simp only [List.filter_cons, awake knock rest rfl, alsoAwake other others rfl,
            Bool.not_false, if_true, List.cons.injEq] at same
          obtain ⟨rfl, later⟩ := same
          exact .inr ⟨knock, rest, others, rfl, rfl, later⟩

namespace Channel

variable {one two : Kernel}

/-- Taking a connection uses up the interruptions in front of it first. -/
theorem take_awake (size : Nat) (kernel : Kernel) :
    ∃ awake : Kernel, kernel.Matches awake ∧ Knock.Awake awake.knocks ∧
      take size kernel = take size awake := by
  generalize queue : kernel.knocks = knocks
  induction knocks generalizing kernel with
  | nil =>
      refine ⟨kernel, .refl kernel, ?_, rfl⟩
      rintro knock later same
      rw [queue] at same
      cases same
  | cons knock rest ih =>
      by_cases interruption : knock.isInterruption = true
      · cases knock with
        | connection => cases interruption
        | failure errno =>
            obtain rfl : errno = .interrupted := of_decide_eq_true interruption
            let next := Kernel.call { kernel with knocks := rest } (.accept (.error .interrupted))
            have used : kernel.Matches next := by
              refine .trans ?_ (Kernel.Matches.idle { kernel with knocks := rest } rfl).symm
              exact (Kernel.Matches.refl kernel).withKnocks
                (by simp [queue, Knock.isInterruption])
            obtain ⟨awake, same, isAwake, taken⟩ := ih next rfl
            refine ⟨awake, used.trans same, isAwake, ?_⟩
            rw [take_unfolds, ← taken]
            simp only [Kernel.accept, queue]
            rfl
      · refine ⟨kernel, .refl kernel, ?_, rfl⟩
        rintro other later same
        rw [queue] at same
        cases same
        exact Bool.eq_false_iff.mpr interruption

theorem prepare_concurs (size label : Nat) (fault : Option Errno) (same : one.Matches two) :
    Concur Kernel.Matches (prepare size label fault one) (prepare size label fault two) := by
  have unblocked := same.call (.unblock (.client label) fault)
  cases fault with
  | some errno => exact ⟨rfl, unblocked.call (.close (.client label))⟩
  | none =>
      refine ⟨rfl, ?_⟩
      simp only [prepare, Kernel.unblock, enlarge_eq]
      exact unblocked.withRecord (by
        rw [show (one.call _).faults = (two.call _).faults from same.faults]
        exact Record.effects_onto unblocked.record _)

theorem take_concurs (size : Nat) (same : one.Matches two) :
    Concur Kernel.Matches (take size one) (take size two) := by
  obtain ⟨left, oneLeft, awake, taken⟩ := take_awake size one
  obtain ⟨right, twoRight, alsoAwake, alsoTaken⟩ := take_awake size two
  have same := oneLeft.symm.trans (same.trans twoRight)
  rw [taken, alsoTaken, take_unfolds, take_unfolds size right]
  rcases Knock.awake_next same.knocks awake alsoAwake with ⟨empty, alsoEmpty⟩ | next
  · simp only [Kernel.accept, empty, alsoEmpty, if_true]
    exact ⟨rfl, same.call _⟩
  · obtain ⟨knock, rest, others, queue, alsoQueue, later⟩ := next
    have kept := same.withKnocks later
    simp only [Kernel.accept, queue, alsoQueue]
    cases knock with
    | connection label fault => exact prepare_concurs size label fault (kept.call _)
    | failure errno =>
        have final : errno ≠ .interrupted := of_decide_eq_false (awake _ _ queue)
        simp only [if_neg final]
        split
        · exact ⟨rfl, kept.call _⟩
        · exact ⟨rfl, kept.call _⟩

theorem accept_concurs (channel : Channel) (same : one.Matches two) :
    Concur Kernel.Matches (channel.accept one) (channel.accept two) := by
  unfold accept
  split
  · exact take_concurs channel.bufferSize same
  · exact ⟨rfl, same⟩

theorem accept_quiet (channel : Channel) {kernel : Kernel}
    (quiet : ∀ knock ∈ kernel.knocks, knock.isInterruption = true) :
    Concur Kernel.Matches (channel.accept kernel) (.ok none, kernel) := by
  unfold accept
  split
  · obtain ⟨awake, same, isAwake, taken⟩ := take_awake channel.bufferSize kernel
    have empty : awake.knocks = [] := by
      have noneLeft : kernel.knocks.filter (!·.isInterruption) = [] := by simpa using quiet
      rw [same.knocks] at noneLeft
      cases queue : awake.knocks with
      | nil => rfl
      | cons knock later => simp [queue, isAwake knock later queue] at noneLeft
    rw [taken, take_unfolds]
    simp only [Kernel.accept, empty, if_true]
    exact ⟨rfl, (Kernel.Matches.idle awake rfl).trans same.symm⟩
  · exact ⟨rfl, .refl kernel⟩

end Channel

theorem Roster.offer_concurs (frame : Bytes) (sessions : List Session) {one two : Kernel}
    (same : one.Matches two) :
    Concur Kernel.Matches (Roster.offer frame sessions one) (Roster.offer frame sessions two) := by
  induction sessions generalizing one two with
  | nil => exact ⟨rfl, same⟩
  | cons session rest ih =>
      obtain ⟨sending, lines⟩ := Line.send_concurs (same.line session) frame
      obtain ⟨later, kernels⟩ := ih (same.overLine lines)
      unfold Roster.offer
      dsimp only
      rw [sending, lines.session, later]
      exact ⟨rfl, kernels⟩

/-! ## Sites -/

structure Site.Matches (one two : Site) : Prop where
  relay : one.relay = two.relay
  kernel : one.kernel.Matches two.kernel

namespace Site

variable {one two three site : Site}

namespace Matches

theorem refl (site : Site) : Matches site site := ⟨rfl, .refl _⟩

theorem symm (same : Matches one two) : Matches two one := ⟨same.relay.symm, same.kernel.symm⟩

theorem trans (first : Matches one two) (second : Matches two three) : Matches one three :=
  ⟨first.relay.trans second.relay, first.kernel.trans second.kernel⟩

theorem change (same : Matches one two) (change : Relay → Relay) :
    Matches { one with relay := change one.relay } { two with relay := change two.relay } :=
  ⟨congrArg change same.relay, same.kernel⟩

theorem withKernel (same : Matches one two) {left right : Kernel} (kernels : left.Matches right) :
    Matches { one with kernel := left } { two with kernel := right } :=
  ⟨same.relay, kernels⟩

theorem note (same : Matches one two) (notice other : Log.Notice) :
    Matches (one.note notice) (two.note other) :=
  ⟨same.relay, same.kernel.note _ _⟩

theorem overLine (same : Matches one two) {left right : Line} (lines : left.Matches right) :
    Matches (one.overLine left) (two.overLine right) where
  relay := by
    change Relay.mk .. = Relay.mk ..
    rw [same.relay, lines.session]
  kernel := same.kernel.overLine lines

theorem overCircuit (same : Matches one two) {left right : Circuit}
    (circuits : left.Matches right) : Matches (one.overCircuit left) (two.overCircuit right) where
  relay := by
    change Relay.mk .. = Relay.mk ..
    rw [same.relay, circuits.line.session]
  kernel := same.kernel.overCircuit circuits

theorem overTunnel (same : Matches one two) {left right : Handle} (handles : left.Matches right) :
    Matches (one.overTunnel left) (two.overTunnel right) :=
  ⟨same.relay, same.kernel.overTunnel handles⟩

end Matches

/-! ## Taking leave -/

theorem absorb_matches (same : Matches one two) (session : Session) :
    Matches (one.absorb session) (two.absorb session) :=
  (same.change fun relay => { relay with retired := relay.retired.add session.tally }).withKernel
    (same.kernel.call (.close (.client session.label)))

theorem retire_matches (same : Matches one two) (session : Session) (parting : Parting) :
    Matches (one.retire session parting) (two.retire session parting) :=
  (absorb_matches (same.note (.parted session.id parting) (.parted session.id parting))
    session).note _ _

theorem closeSession_matches (same : Matches one two) (id : Nat) (parting : Parting) :
    Matches (one.closeSession id parting) (two.closeSession id parting) := by
  unfold closeSession
  rw [← same.relay]
  split
  · exact same
  · next session roster removed =>
      have removed : Matches ⟨{ one.relay with roster }, one.kernel⟩
          ⟨{ one.relay with roster }, two.kernel⟩ := ⟨rfl, same.kernel⟩
      exact retire_matches removed session parting

/-! ## The tunnel -/

theorem retireAll_matches (same : Matches one two) (closed : List (Session × Parting)) :
    Matches (closed.foldl (fun site (session, parting) => site.retire session parting) one)
      (closed.foldl (fun site (session, parting) => site.retire session parting) two) := by
  induction closed generalizing one two with
  | nil => exact same
  | cons leaver rest ih => exact ih (retire_matches same leaver.1 leaver.2)

theorem fanOut_matches (same : Matches one two) (frame : Bytes) :
    Matches (one.fanOut frame) (two.fanOut frame) := by
  obtain ⟨offers, kernels⟩ :=
    Roster.offer_concurs frame one.relay.roster.sessions same.kernel
  unfold fanOut Roster.broadcast
  dsimp only
  rw [← same.relay, ← offers]
  apply retireAll_matches
  have offered {roster : Roster} : Matches
      ⟨{ one.relay with roster }, (Roster.offer frame one.relay.roster.sessions one.kernel).2⟩
      ⟨{ one.relay with roster }, (Roster.offer frame one.relay.roster.sessions two.kernel).2⟩ :=
    ⟨rfl, kernels⟩
  split
  · exact offered
  · exact offered.note _ _

theorem countPacket_matches (same : Matches one two) (name : String) (packet : Bytes) :
    Matches (one.countPacket name packet) (two.countPacket name packet) := by
  have noted := same.note (.tunnelGave name packet) (.tunnelGave name packet)
  have counted := noted.change fun relay => { relay with fromTunnel := one.relay.fromTunnel + 1 }
  unfold countPacket
  rw [← same.relay]
  dsimp only
  split
  · exact counted.note _ _
  · exact counted

theorem relayPacket_matches (same : Matches one two) (name : String) (packet : Bytes) :
    Matches (one.relayPacket name packet) (two.relayPacket name packet) := by
  have counted := countPacket_matches same name packet
  unfold relayPacket
  cases Frame.encode packet with
  | ok frame => exact fanOut_matches counted frame
  | error violation =>
      exact (counted.change fun relay => { relay with unframeable := relay.unframeable + 1 }).note
        _ _

theorem readTunnel_concurs (same : Matches one two) :
    Concur Matches one.readTunnel two.readTunnel := by
  fun_induction readTunnel one generalizing two with
  | case1 one absent =>
      rw [readTunnel_unfolds two, ← same.relay, absent]
      exact ⟨rfl, same⟩
  | case2 one name present errno handle made =>
      have received := Tunnel.receive_concurs Tunnel.maxPacketSize same.kernel.tunnelHandle
      obtain ⟨other, alsoMade, handles⟩ := received.follow made
      rw [readTunnel_unfolds two, ← same.relay, present, alsoMade]
      exact ⟨rfl, same.overTunnel handles⟩
  | case3 one name present handle made =>
      have received := Tunnel.receive_concurs Tunnel.maxPacketSize same.kernel.tunnelHandle
      obtain ⟨other, alsoMade, handles⟩ := received.follow made
      rw [readTunnel_unfolds two, ← same.relay, present, alsoMade]
      exact ⟨rfl, same.overTunnel handles⟩
  | case4 one name present packet handle made after =>
      rename_i single
      have received := Tunnel.receive_concurs Tunnel.maxPacketSize same.kernel.tunnelHandle
      obtain ⟨other, alsoMade, handles⟩ := received.follow made
      rw [readTunnel_unfolds two, ← same.relay, present, alsoMade, single]
      exact ⟨rfl, relayPacket_matches (same.overTunnel handles) name packet⟩
  | case5 one name present packet handle made after =>
      rename_i drain ih
      have received := Tunnel.receive_concurs Tunnel.maxPacketSize same.kernel.tunnelHandle
      obtain ⟨other, alsoMade, handles⟩ := received.follow made
      rw [readTunnel_unfolds two, ← same.relay, present, alsoMade, drain]
      exact ih (relayPacket_matches (same.overTunnel handles) name packet)

theorem readTunnel_silent (silent : site.kernel.tunnel.Silent) :
    Concur Matches site.readTunnel (.ok (), site) := by
  have idle : Concur Handle.Matches (Tunnel.receive Tunnel.maxPacketSize site.kernel.tunnelHandle)
      (.ok none, site.kernel.tunnelHandle) := Tunnel.receive_silent (by decide) silent
  rw [readTunnel_unfolds]
  cases site.relay.tunnel with
  | none => exact ⟨rfl, .refl site⟩
  | some name =>
      dsimp only
      generalize Tunnel.receive Tunnel.maxPacketSize site.kernel.tunnelHandle = made at idle ⊢
      obtain ⟨result, handle⟩ := made
      obtain ⟨rfl, handles⟩ := idle
      exact ⟨rfl, Matches.overTunnel (.refl site) handles⟩

/-! ## Accepting clients -/

theorem enroll_matches (same : Matches one two) (label : Nat) :
    Matches (one.enroll label) (two.enroll label) := by
  have joined := same.change fun relay => { relay with
    roster := (relay.roster.insert label).2, connections := relay.connections + 1 }
  exact joined.withKernel (same.kernel.note _ _)

theorem acceptClients_matches (same : Matches one two) :
    Matches one.acceptClients two.acceptClients := by
  fun_induction acceptClients one generalizing two with
  | case1 one kernel made =>
      have accepted := Channel.accept_concurs one.relay.channel same.kernel
      obtain ⟨other, alsoMade, kernels⟩ := accepted.follow made
      rw [acceptClients_unfolds, ← same.relay, alsoMade]
      exact ⟨rfl, kernels⟩
  | case2 one errno kernel made =>
      have accepted := Channel.accept_concurs one.relay.channel same.kernel
      obtain ⟨other, alsoMade, kernels⟩ := accepted.follow made
      rw [acceptClients_unfolds, ← same.relay, alsoMade]
      exact ⟨rfl, kernels.note _ _⟩
  | case3 one client kernel made ih =>
      have accepted := Channel.accept_concurs one.relay.channel same.kernel
      obtain ⟨other, alsoMade, kernels⟩ := accepted.follow made
      rw [acceptClients_unfolds two, ← same.relay, alsoMade]
      have taken : Matches ⟨one.relay, kernel⟩ ⟨one.relay, other⟩ := ⟨rfl, kernels⟩
      exact ih (enroll_matches taken client)

theorem acceptClients_quiet (quiet : ∀ knock ∈ site.kernel.knocks, knock.isInterruption = true) :
    Matches site.acceptClients site := by
  have idle := Channel.accept_quiet site.relay.channel quiet
  rw [acceptClients_unfolds]
  generalize site.relay.channel.accept site.kernel = made at idle ⊢
  obtain ⟨result, kernel⟩ := made
  obtain ⟨rfl, kernels⟩ := idle
  exact Matches.withKernel (.refl site) kernels

end Site
end PacketRelay
