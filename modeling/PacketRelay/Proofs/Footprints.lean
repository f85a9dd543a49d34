import PacketRelay.Proofs.Statistics
import PacketRelay.Proofs.Waning

/-!
What serving one source may change. Only what waits at its own descriptor is
taken. Serving the tunnel adds no session, and a session that is gone afterwards
has been closed. Serving the channel leaves every session and every stream alone,
and those who join have not been dealt with before. Serving a client leaves all
other sessions and streams alone.
-/

namespace PacketRelay

open Kernel (Arrival Call Descriptor Endpoint Flags Handle Knock)

def Kernel.queue (kernel : Kernel) : Descriptor → List Arrival ⊕ List Knock
  | .tunnel => .inl kernel.tunnel.inbound
  | .channel => .inr kernel.knocks
  | .client label => .inl (kernel.client label).inbound

/-- The calls that serve the source at a descriptor. What the tunnel gives is written to
clients, and what a client sends is written to the tunnel. -/
def Kernel.Call.serves : Descriptor → Call → Bool
  | .tunnel, .read used .. => used = .tunnel
  | .tunnel, .write used .. | .tunnel, .close used => used.client?.isSome
  | .channel, .accept _ => true
  | .channel, .unblock used _ | .channel, .resize used .. | .channel, .close used =>
      used.client?.isSome
  | .client label, .read used .. | .client label, .close used => used = .client label
  | .client label, .write used .. => used = .client label ∨ used = .tunnel
  | _, _ => false

namespace History

def Made (call : Call) (earlier later : List Call) : Prop :=
  ∃ new, later = new ++ earlier ∧ call ∈ new

namespace Made

variable {call : Call} {earlier middle later : List Call}

theorem before (made : Made call earlier middle) (after : middle <:+ later) :
    Made call earlier later := by
  obtain ⟨new, rfl, member⟩ := made
  obtain ⟨rest, rfl⟩ := after
  exact ⟨rest ++ new, (List.append_assoc ..).symm, List.mem_append_right rest member⟩

theorem after (before : earlier <:+ middle) (made : Made call middle later) :
    Made call earlier later := by
  obtain ⟨new, rfl, member⟩ := made
  obtain ⟨rest, rfl⟩ := before
  exact ⟨new ++ rest, (List.append_assoc ..).symm, List.mem_append_left rest member⟩

theorem attempts {α : Type} (call : Except Errno α → Call) (result : Except Errno α)
    (interruptions : Nat) :
    Made (call result) earlier (Handle.attempts call result interruptions ++ earlier) :=
  ⟨_, rfl, List.mem_cons_self⟩

end Made
end History

open History (Made)

namespace Site

/-- Only the source at one descriptor has been served. -/
structure Confined (own : Descriptor) (before after : Site) : Prop where
  calls : ∃ new, after.calls = new ++ before.calls ∧ ∀ call ∈ new, call.serves own = true
  queues : ∀ other, other ≠ own → after.kernel.queue other = before.kernel.queue other

structure Broadcasts (before after : Site) : Prop extends Confined .tunnel before after where
  known : ∀ session ∈ after.relay.roster.sessions, ∃ was ∈ before.relay.roster.sessions,
    was.id = session.id ∧ was.label = session.label
  left : ∀ was ∈ before.relay.roster.sessions,
    (∃ session ∈ after.relay.roster.sessions, session.id = was.id ∧ session.label = was.label) ∨
      Made (.close (.client was.label)) before.calls after.calls

structure Admits (before after : Site) : Prop extends Confined .channel before after where
  sessions : before.relay.roster.sessions ⊆ after.relay.roster.sessions
  streams : after.kernel.clients = before.kernel.clients
  joined : ∀ session ∈ after.relay.roster.sessions, session ∈ before.relay.roster.sessions ∨
    session = { id := session.id, label := session.label } ∧
      ∀ call ∈ before.calls, call.client? ≠ some session.label

structure Attends (label : Nat) (before after : Site) : Prop
    extends Confined (.client label) before after where
  others : ∀ session : Session, session.label ≠ label →
    (session ∈ after.relay.roster.sessions ↔ session ∈ before.relay.roster.sessions)
  streams : ∀ other, other ≠ label → after.kernel.client other = before.kernel.client other
  known : ∀ session ∈ after.relay.roster.sessions, ∃ was ∈ before.relay.roster.sessions,
    was.id = session.id ∧ was.label = session.label

variable {own : Descriptor} {label : Nat} {before middle after : Site}

namespace Confined

theorem refl (own : Descriptor) (site : Site) : Confined own site site :=
  ⟨⟨[], rfl, by simp⟩, fun _ _ => rfl⟩

theorem trans (first : Confined own before middle) (second : Confined own middle after) :
    Confined own before after where
  calls := by
    obtain ⟨one, appended, serve⟩ := first.calls
    obtain ⟨two, appendedLater, serveLater⟩ := second.calls
    refine ⟨two ++ one, by rw [appendedLater, appended, List.append_assoc], ?_⟩
    intro call member
    rcases List.mem_append.mp member with later | sooner
    · exact serveLater call later
    · exact serve call sooner
  queues other different := (second.queues other different).trans (first.queues other different)

theorem grows (confined : Confined own before after) : before.calls <:+ after.calls := by
  obtain ⟨new, appended, _⟩ := confined.calls
  exact ⟨new, appended.symm⟩

theorem recorded {new : List Call} (calls : after.calls = new ++ before.calls)
    (serve : ∀ call ∈ new, call.serves own = true)
    (kernel : ∃ record, after.kernel = { before.kernel with record }) :
    Confined own before after where
  calls := ⟨new, calls, serve⟩
  queues other _ := by
    obtain ⟨record, same⟩ := kernel
    rw [same]
    cases other <;> rfl

theorem noted (calls : after.calls = before.calls)
    (kernel : ∃ record, after.kernel = { before.kernel with record }) :
    Confined own before after := by
  have noneNew : ∀ call ∈ ([] : List Call), call.serves own = true := by simp
  exact .recorded calls noneNew kernel

end Confined

/-! ## The tunnel -/

namespace Broadcasts

theorem of_sessions (confined : Confined .tunnel before after)
    (sessions : after.relay.roster.sessions = before.relay.roster.sessions) :
    Broadcasts before after where
  toConfined := confined
  known session member := ⟨session, sessions ▸ member, rfl, rfl⟩
  left was member := .inl ⟨was, sessions ▸ member, rfl, rfl⟩

theorem refl (site : Site) : Broadcasts site site :=
  .of_sessions (.refl _ site) rfl

theorem trans (first : Broadcasts before middle) (second : Broadcasts middle after) :
    Broadcasts before after where
  toConfined := first.toConfined.trans second.toConfined
  known session member := by
    obtain ⟨still, inside, id, label⟩ := second.known session member
    obtain ⟨was, firstInside, firstId, firstLabel⟩ := first.known still inside
    exact ⟨was, firstInside, firstId.trans id, firstLabel.trans label⟩
  left was member := by
    rcases first.left was member with ⟨still, inside, id, label⟩ | closed
    · rcases second.left still inside with ⟨session, last, lastId, lastLabel⟩ | closed
      · exact .inl ⟨session, last, lastId.trans id, lastLabel.trans label⟩
      · exact .inr (.after first.grows (label ▸ closed))
    · exact .inr (closed.before second.grows)

end Broadcasts

end Site

theorem Kernel.queue_overLine {kernel : Kernel} {session : Session} {line : Line}
    (own : line.session.label = session.label)
    (inbound : line.stream.inbound = (kernel.client session.label).inbound)
    (descriptor : Descriptor) :
    (kernel.overLine line).queue descriptor = kernel.queue descriptor := by
  cases descriptor with
  | tunnel | channel => rfl
  | client label =>
      have stream : (kernel.overLine line).client label =
          if label = line.session.label then line.stream else kernel.client label :=
        kernel.client_setClient line.session.label label line.stream
      simp only [queue, stream]
      split
      · next same => rw [same, own, inbound]
      · rfl

namespace Roster

theorem offer_queue (frame : Bytes) (sessions : List Session) (kernel : Kernel)
    (descriptor : Descriptor) :
    (offer frame sessions kernel).2.queue descriptor = kernel.queue descriptor := by
  induction sessions generalizing kernel with
  | nil => rfl
  | cons session rest ih =>
      have sends := Line.send_sends frame (kernel.line session)
      have inbound := Line.send_keeps
        (fun bytes endpoint same => (endpoint.write_inbound bytes).trans same) frame
        (kernel.line session) (rfl : (kernel.line session).stream.inbound = _)
      exact (ih _).trans (Kernel.queue_overLine sends.label inbound descriptor)

theorem offer_writes (frame : Bytes) (sessions : List Session) (kernel : Kernel) :
    ∃ new, (offer frame sessions kernel).2.record.calls = new ++ kernel.record.calls ∧
      ∀ call ∈ new, ∃ label bytes result, call = .write (.client label) bytes result := by
  induction sessions generalizing kernel with
  | nil => exact ⟨[], rfl, by simp⟩
  | cons session rest ih =>
      obtain ⟨one, appended, writes⟩ := (Line.send_sends frame (kernel.line session)).only
      obtain ⟨two, later, others⟩ := ih (kernel.overLine ((kernel.line session).send frame).2)
      refine ⟨two ++ one, ?_, ?_⟩
      · rw [List.append_assoc]
        exact later.trans (congrArg (two ++ ·) appended)
      · intro call member
        rcases List.mem_append.mp member with later | sooner
        · exact others call later
        · exact ⟨_, writes call sooner⟩

theorem offer_serves (frame : Bytes) (sessions : List Session) (kernel : Kernel) :
    ∃ new, (offer frame sessions kernel).2.record.calls = new ++ kernel.record.calls ∧
      ∀ call ∈ new, call.serves .tunnel = true := by
  obtain ⟨new, appended, writes⟩ := offer_writes frame sessions kernel
  refine ⟨new, appended, fun call member => ?_⟩
  obtain ⟨label, bytes, result, rfl⟩ := writes call member
  rfl

end Roster

namespace Site

theorem retireAll_parts (closed : List (Session × Parting)) (site : Site) :
    ∃ retired record,
      closed.foldl (fun site (session, parting) => site.retire session parting) site =
        ⟨{ site.relay with retired }, { site.kernel with record }⟩ ∧
      record.calls = (closed.map fun leaver => Call.close (.client leaver.1.label)).reverse ++
        site.calls := by
  induction closed generalizing site with
  | nil => exact ⟨_, _, rfl, rfl⟩
  | cons leaver rest ih =>
      obtain ⟨session, parting⟩ := leaver
      obtain ⟨retired, record, parts, calls⟩ := ih (site.retire session parting)
      refine ⟨retired, record, parts, ?_⟩
      rw [calls]
      simp only [List.map_cons, List.reverse_cons, List.append_assoc]
      rfl

/-- A broadcast, taken apart: the offers are made, those that are closed by them leave the
roster, and their streams are closed. -/
theorem fanOut_parts (frame : Bytes) (site : Site) :
    let offers := Roster.offer frame site.relay.roster.sessions site.kernel
    ∃ (closed : List (Session × Parting)) (sessions : List Session) (retired : Tally)
        (record : Record), site.fanOut frame =
        { relay := { site.relay with roster.sessions := sessions, retired }
          kernel := { offers.2 with record } } ∧
      (closed.map (·.1) ++ sessions).Perm (offers.1.map (·.1)) ∧
      record.calls = (closed.map fun leaver => Call.close (.client leaver.1.label)).reverse ++
        offers.2.record.calls := by
  intro offers
  let failed := offers.1.filterMap Roster.failedBy
  let offered : Roster := { site.relay.roster with sessions := offers.1.map (·.1) }
  have perm := offered.removeAll_perm failed
  have issued := offered.removeAll_issued failed
  have broadcast : site.relay.roster.broadcast frame site.kernel =
      ({ delivered := offers.1.countP Roster.delivers, dropped := offers.1.countP Roster.drops,
         closed := (offered.removeAll failed).1 }, (offered.removeAll failed).2, offers.2) := rfl
  unfold fanOut
  rw [broadcast]
  generalize offered.removeAll failed = removed at perm issued ⊢
  obtain ⟨closed, ⟨sessions, _⟩⟩ := removed
  cases issued
  have parts (site : Site) := retireAll_parts closed site
  dsimp only
  split
  · obtain ⟨retired, record, parts, calls⟩ := parts
      ⟨{ site.relay with roster := ⟨sessions, offered.issued⟩ }, offers.2⟩
    exact ⟨closed, sessions, retired, record, parts, perm, calls⟩
  · obtain ⟨retired, record, parts, calls⟩ := parts
      (note ⟨{ site.relay with roster := ⟨sessions, offered.issued⟩ }, offers.2⟩ _)
    exact ⟨closed, sessions, retired, record, parts, perm, calls⟩

theorem fanOut_broadcasts (frame : Bytes) (site : Site) : Broadcasts site (site.fanOut frame) := by
  obtain ⟨new, calls, serve⟩ := Roster.offer_serves frame site.relay.roster.sessions site.kernel
  have queues := Roster.offer_queue frame site.relay.roster.sessions site.kernel
  have who := Roster.offer_who frame site.relay.roster.sessions site.kernel
  obtain ⟨closed, sessions, retired, record, parts, perm, closes⟩ := site.fanOut_parts frame
  generalize Roster.offer frame site.relay.roster.sessions site.kernel = made
    at calls queues who parts perm closes
  obtain ⟨offers, kernel⟩ := made
  rw [calls, ← List.append_assoc] at closes
  rw [parts]
  -- An offer changes neither id nor label, so whoever is on one side is found on the other.
  constructor
  · refine ⟨⟨_, closes, ?_⟩, fun other _ => ?_⟩
    · intro call member
      rcases List.mem_append.mp member with isClose | isOffer
      · obtain ⟨leaver, _, rfl⟩ := List.mem_map.mp (List.mem_reverse.mp isClose)
        rfl
      · exact serve call isOffer
    · rw [← queues other]
      cases other <;> rfl
  · intro session member
    obtain ⟨made, inside, rfl⟩ := List.mem_map.mp
      (perm.subset (List.mem_append_right _ member))
    have listed := List.mem_map_of_mem (f := fun made : Session × Sending =>
      (made.1.id, made.1.label)) inside
    rw [who] at listed
    obtain ⟨was, present, same⟩ := List.mem_map.mp listed
    exact ⟨was, present, (Prod.mk.inj same).1, (Prod.mk.inj same).2⟩
  · intro was present
    have listed := List.mem_map_of_mem (f := fun session : Session => (session.id, session.label))
      present
    rw [← who] at listed
    obtain ⟨made, inside, same⟩ := List.mem_map.mp listed
    obtain ⟨id, label⟩ := Prod.mk.inj same
    rcases List.mem_append.mp (perm.symm.subset (List.mem_map_of_mem inside)) with leaves | stays
    · obtain ⟨leaver, isLeaver, own⟩ := List.mem_map.mp leaves
      refine .inr ⟨_, closes, List.mem_append_left _ (List.mem_reverse.mpr ?_)⟩
      rw [← label, ← own]
      exact List.mem_map.mpr ⟨leaver, isLeaver, rfl⟩
    · exact .inl ⟨made.1, stays, id, label⟩

/-- What the tunnel gives is taken from its own queue. -/
theorem receive_broadcasts {site : Site} {size : Nat} {received : Except Errno (Option Bytes)}
    {handle : Handle}
    (made : Tunnel.receive size site.kernel.tunnelHandle = (received, handle)) :
    Broadcasts site (site.overTunnel handle) := by
  obtain ⟨result, interruptions, _, _, record⟩ := Tunnel.receive_record made
  refine .of_sessions ⟨⟨_, congrArg Record.calls record, ?_⟩, fun other different => ?_⟩ rfl
  · intro call member
    rcases List.mem_cons.mp member with rfl | retried
    · rfl
    · rw [List.eq_of_mem_replicate retried]
      rfl
  · cases other with
    | tunnel => exact absurd rfl different
    | channel | client => rfl

theorem relayPacket_broadcasts (name : String) (packet : Bytes) (site : Site) :
    Broadcasts site (site.relayPacket name packet) := by
  have counted : Broadcasts site (site.countPacket name packet) := by
    unfold countPacket
    dsimp only
    split <;> exact .of_sessions (.noted rfl ⟨_, rfl⟩) rfl
  unfold relayPacket
  dsimp only
  split
  · exact counted.trans (fanOut_broadcasts _ _)
  · exact counted.trans (.of_sessions (.noted rfl ⟨_, rfl⟩) rfl)

theorem readTunnel_broadcasts (site : Site) : Broadcasts site site.readTunnel.2 := by
  fun_induction readTunnel site with
  | case1 site absent => exact .refl site
  | case2 site name present errno handle failed => exact receive_broadcasts failed
  | case3 site name present handle received => exact receive_broadcasts received
  | case4 site name present packet handle received after single =>
      exact (receive_broadcasts received).trans (relayPacket_broadcasts name packet _)
  | case5 site name present packet handle received after drain ih =>
      exact ((receive_broadcasts received).trans (relayPacket_broadcasts name packet _)).trans ih

theorem readTunnel_made {site : Site} (present : site.relay.tunnel.isSome) :
    ∃ outcome, Made (.read .tunnel Tunnel.maxPacketSize outcome) site.calls
      site.readTunnel.2.calls := by
  obtain ⟨name, tunnel⟩ := Option.isSome_iff_exists.mp present
  have made {received : Except Errno (Option Bytes)} {handle : Handle}
      (taken : Tunnel.receive Tunnel.maxPacketSize site.kernel.tunnelHandle = (received, handle)) :
      ∃ outcome, Made (.read .tunnel Tunnel.maxPacketSize outcome) site.calls
        (site.overTunnel handle).calls := by
    obtain ⟨result, interruptions, _, _, record⟩ := Tunnel.receive_record taken
    rw [show (site.overTunnel handle).calls = _ from congrArg Record.calls record]
    exact ⟨result, .attempts (Call.read .tunnel Tunnel.maxPacketSize) result interruptions⟩
  rw [readTunnel_unfolds, tunnel]
  dsimp only
  split
  · next errno handle failed => exact made failed
  · next handle received => exact made received
  · next packet handle received =>
      obtain ⟨outcome, read⟩ := made received
      have relayed := (relayPacket_broadcasts name packet (site.overTunnel handle)).grows
      refine ⟨outcome, read.before ?_⟩
      split
      · exact relayed
      · exact relayed.trans (readTunnel_broadcasts _).grows

end Site

/-! ## The channel -/

namespace Channel

theorem prepare_grows (size label : Nat) (fault : Option Errno) (kernel : Kernel) :
    kernel.record.calls <:+ (prepare size label fault kernel).2.record.calls := by
  cases fault with
  | none =>
      simp only [prepare, Kernel.unblock, enlarge_eq, Record.onto_calls]
      exact (List.suffix_cons _ _).trans (List.suffix_append _ _)
  | some errno => exact (List.suffix_cons _ _).trans (List.suffix_cons _ _)

theorem take_made (size : Nat) (kernel : Kernel) :
    ∃ outcome, Made (.accept outcome) kernel.record.calls (take size kernel).2.record.calls := by
  have asked : ∃ outcome, Made (.accept outcome) kernel.record.calls
      kernel.accept.2.record.calls := by
    unfold Kernel.accept
    split <;> exact ⟨_, [_], rfl, List.mem_singleton_self _⟩
  obtain ⟨outcome, made⟩ := asked
  refine ⟨outcome, ?_⟩
  rw [take_unfolds]
  split
  · next label fault after taken =>
      rw [taken] at made
      exact made.before (prepare_grows size label fault after)
  · next errno after failed =>
      rw [failed] at made
      -- What is tried again only adds to the record, so the first attempt stays in it.
      split
      · exact made
      · split
        · obtain ⟨_, _, new, _, _, always⟩ := take_spec size after.knocks after.faults.resize
          rw [always after rfl rfl]
          exact made.before ⟨new.calls, rfl⟩
        · exact made

end Channel

namespace Site

variable {label : Nat} {before middle after : Site}

theorem accept_made {site : Site} (listening : site.relay.channel.isOpen = true) :
    ∃ outcome, Made (.accept outcome) site.calls
      (site.relay.channel.accept site.kernel).2.record.calls := by
  unfold Channel.accept
  rw [if_pos listening]
  exact Channel.take_made site.relay.channel.bufferSize site.kernel

theorem Admits.trans (first : Admits before middle) (second : Admits middle after) :
    Admits before after where
  toConfined := first.toConfined.trans second.toConfined
  sessions := List.Subset.trans first.sessions second.sessions
  streams := second.streams.trans first.streams
  joined session member := by
    rcases second.joined session member with old | ⟨fresh, untouched⟩
    · exact first.joined session old
    · exact .inr ⟨fresh, fun call made => untouched call (first.grows.subset made)⟩

theorem accepting_serves {call : Call} (accepting : Channel.Accepting label call) :
    call.serves .channel = true := by
  cases accepting <;> rfl

theorem accept_admits {site : Site} {result : Except Errno (Option Nat)} {kernel : Kernel}
    (made : site.relay.channel.accept site.kernel = (result, kernel)) :
    Admits site { site with kernel } := by
  obtain ⟨_, _, new, taking, _, always⟩ :=
    Channel.accept_spec site.relay.channel site.kernel.knocks site.kernel.faults.resize
  obtain ⟨_, accepting⟩ := taking.accepting
  rw [always site.kernel rfl rfl] at made
  cases made
  constructor
  case toConfined =>
    refine ⟨⟨new.calls, rfl, fun call member => accepting_serves (accepting call member)⟩, ?_⟩
    intro other different
    cases other with
    | channel => exact absurd rfl different
    | tunnel | client => rfl
  case sessions => exact List.Subset.refl _
  case streams => rfl
  case joined => exact fun session member => .inl member

theorem accepted_untouched {frontier : Nat} {site : Site} (numbered : Numbered frontier site)
    {label : Nat} {kernel : Kernel}
    (made : site.relay.channel.accept site.kernel = (.ok (some label), kernel)) :
    ∀ call ∈ site.calls, call.client? ≠ some label := by
  obtain ⟨_, _, ⟨new, notices⟩, taking, _, always⟩ :=
    Channel.accept_spec site.relay.channel site.kernel.knocks site.kernel.faults.resize
  rw [always site.kernel rfl rfl] at made
  cases made
  change Channel.Taking _ _ _ new at taking
  cases taking with
  | without noneTaken => exact absurd rfl (noneTaken label)
  | ready before split => exact numbered.untouched (numbered.next_waiting split).1.1

theorem enroll_admits {frontier : Nat} {site : Site} (numbered : Numbered frontier site)
    {label : Nat} {kernel : Kernel}
    (made : site.relay.channel.accept site.kernel = (.ok (some label), kernel)) :
    Admits site ({ site with kernel }.enroll label) := by
  have taken := accept_admits made
  constructor
  case toConfined => exact taken.toConfined.trans (.noted rfl ⟨_, rfl⟩)
  case sessions => exact List.subset_append_left _ _
  case streams => exact taken.streams
  case joined =>
    intro session member
    rcases List.mem_append.mp member with old | new
    · exact .inl old
    · rw [List.mem_singleton.mp new]
      exact .inr ⟨rfl, accepted_untouched numbered made⟩

theorem acceptClients_admits (site : Site) (numbered : ∃ frontier, Numbered frontier site) :
    Admits site site.acceptClients := by
  fun_induction acceptClients site with
  | case1 site kernel taken => exact accept_admits taken
  | case2 site errno kernel taken =>
      have noted : Admits { site with kernel }
          { site with kernel := kernel.note (.acceptFailed errno) } :=
        ⟨.noted rfl ⟨_, rfl⟩, List.Subset.refl _, rfl, fun session member => .inl member⟩
      exact (accept_admits taken).trans noted
  | case3 site label kernel taken ih =>
      obtain ⟨frontier, numbered⟩ := numbered
      exact (enroll_admits numbered taken).trans (ih ⟨label, numbered.accept taken⟩)

theorem acceptClients_made {site : Site} (numbered : ∃ frontier, Numbered frontier site)
    (listening : site.relay.channel.isOpen = true) :
    ∃ outcome, Made (.accept outcome) site.calls site.acceptClients.calls := by
  obtain ⟨outcome, made⟩ := accept_made listening
  refine ⟨outcome, ?_⟩
  rw [acceptClients_unfolds]
  split
  · next kernel taken =>
      rw [taken] at made
      exact made
  · next errno kernel taken =>
      rw [taken] at made
      exact made
  · next label kernel taken =>
      rw [taken] at made
      obtain ⟨frontier, numbered⟩ := numbered
      have later := acceptClients_admits ({ site with kernel }.enroll label)
        ⟨label, numbered.accept taken⟩
      exact made.before later.grows

/-! ## A client -/

namespace Attends

theorem refl (label : Nat) (site : Site) : Attends label site site where
  toConfined := .refl _ site
  others _ _ := Iff.rfl
  streams _ _ := rfl
  known session member := ⟨session, member, rfl, rfl⟩

theorem trans (first : Attends label before middle) (second : Attends label middle after) :
    Attends label before after where
  toConfined := first.toConfined.trans second.toConfined
  others session different :=
    (second.others session different).trans (first.others session different)
  streams other different := (second.streams other different).trans (first.streams other different)
  known session member := by
    obtain ⟨still, inside, id, label⟩ := second.known session member
    obtain ⟨was, firstInside, firstId, firstLabel⟩ := first.known still inside
    exact ⟨was, firstInside, firstId.trans id, firstLabel.trans label⟩

end Attends

section

variable {site : Site} {session other : Session}

theorem update_attends (orderly : site.Orderly)
    (found : site.relay.roster.find? session.id = some session) (id : other.id = session.id)
    (own : other.label = session.label) {after : Site}
    (roster : after.relay.roster = site.relay.roster.update other)
    (confined : Confined (.client session.label) site after)
    (streams : ∀ label, label ≠ session.label →
      after.kernel.client label = site.kernel.client label) :
    Attends session.label site after where
  toConfined := confined
  others one different := by
    rw [roster]
    constructor
    · intro member
      rcases Roster.mem_update member with rfl | ⟨old, _⟩
      · exact absurd own different
      · exact old
    · intro member
      -- Ids belong to one client each, so a session of another client is not replaced.
      refine List.mem_map.mpr ⟨one, member, if_neg fun same => different ?_⟩
      exact orderly.label_eq (orderly.name found) one member (same.trans id)
  streams := streams
  known one member := by
    rw [roster] at member
    rcases Roster.mem_update member with rfl | ⟨old, _⟩
    · exact ⟨session, (Roster.mem_of_find? found).1, id.symm, own.symm⟩
    · exact ⟨one, old, rfl, rfl⟩

theorem overLine_attends (orderly : site.Orderly)
    (found : site.relay.roster.find? session.id = some session) {line : Line}
    (sends : Line.Sends (site.kernel.line session) line)
    (inbound : line.stream.inbound = (site.kernel.client session.label).inbound) :
    Attends session.label site (site.overLine line) := by
  obtain ⟨new, appended, writes⟩ := sends.only
  have own : line.session.label = session.label := sends.label
  refine update_attends orderly found sends.id own rfl ⟨⟨new, appended, ?_⟩, ?_⟩ ?_
  · intro call member
    obtain ⟨bytes, result, rfl⟩ := writes call member
    simp [Call.serves, Kernel.line]
  · exact fun other _ => Kernel.queue_overLine own inbound other
  · intro label different
    exact (site.kernel.client_setClient line.session.label label line.stream).trans
      (if_neg (own ▸ different))

theorem overCircuit_attends (orderly : site.Orderly)
    (found : site.relay.roster.find? session.id = some session) {circuit : Circuit}
    (receives : Circuit.Receives (site.kernel.circuit session) circuit)
    (tunnel : circuit.tunnel.Alike site.kernel.tunnel) :
    Attends session.label site (site.overCircuit circuit) := by
  obtain ⟨new, appended, calls⟩ := receives.only
  have own : circuit.session.label = session.label := receives.label
  have streams (label : Nat) (different : label ≠ session.label) :
      (site.overCircuit circuit).kernel.client label = site.kernel.client label :=
    (site.kernel.client_setClient circuit.session.label label circuit.stream).trans
      (if_neg (own ▸ different))
  refine update_attends orderly found receives.id own rfl ⟨⟨new, appended, ?_⟩, ?_⟩ streams
  · intro call member
    rcases calls call member with ⟨size, result, rfl⟩ | ⟨packet, result, rfl⟩
    · simp [Call.serves, Kernel.circuit, Kernel.line]
    · simp [Call.serves]
  · intro other different
    cases other with
    | tunnel => exact congrArg Sum.inl tunnel.inbound
    | channel => rfl
    | client label =>
        have stream := streams label fun same => different (congrArg Descriptor.client same)
        simp only [Kernel.queue, stream]

theorem closeSession_attends (orderly : site.Orderly)
    (found : site.relay.roster.find? session.id = some session) (parting : Parting) :
    Attends session.label site (site.closeSession session.id parting) ∧
      ∀ one ∈ (site.closeSession session.id parting).relay.roster.sessions,
        one.id ≠ session.id := by
  have removed (one : Session) : one ∈ (site.relay.roster.remove session.id).2.sessions ↔
      one ∈ site.relay.roster.sessions ∧ one.id ≠ session.id :=
    Roster.mem_remove orderly.ordered
  have close : ∀ call ∈ [Call.close (.client session.label)],
      call.serves (.client session.label) = true := by
    simp [Call.serves]
  unfold closeSession
  simp only [Roster.remove, found]
  refine ⟨⟨.recorded rfl close ⟨_, rfl⟩, ?_, fun _ _ => rfl, ?_⟩, ?_⟩
  · intro one different
    refine (removed one).trans ⟨And.left, fun member => ⟨member, fun same => different ?_⟩⟩
    exact orderly.label_eq (orderly.name found) one member same
  · exact fun one member => ⟨one, ((removed one).mp member).1, rfl, rfl⟩
  · exact fun one member => ((removed one).mp member).2

end

end Site

theorem Line.flush_made (line : Line) (somePending : line.session.pending ≠ []) :
    ∃ outcome, Made (.write (.client line.session.label) line.session.pending outcome) line.calls
      line.flush.2.calls := by
  obtain ⟨last, interruptions, _, outcome⟩ :=
    Handle.write_spec line.session.pending (.client line.session.label) line.stream
  have wrote : line.handle.write line.session.pending = _ := outcome line.record
  have made : Made (.write (.client line.session.label) line.session.pending
      (last.write line.session.pending).1) line.calls
      (line.handle.write line.session.pending).2.record.calls := by
    rw [wrote]
    exact .attempts (Call.write (.client line.session.label) line.session.pending) _ interruptions
  have drained : (line.handle.write line.session.pending).2.record.calls <:+
      line.drainPending.2.calls := by
    unfold drainPending
    rw [dif_neg somePending]
    split
    · next handle written =>
        rw [written]
        exact List.suffix_rfl
    · next taken handle written =>
        rw [written]
        exact (drainPending_sends ((line.withHandle handle).update fun session =>
          { session with pending := session.pending.drop (taken + 1) })).grows
    · next errno handle written =>
        rw [written]
        split <;> exact List.suffix_rfl
  -- The first write of the flush is the one; what follows only adds to the record.
  have calls : line.flush.2.calls = line.drainPending.2.calls := by
    rcases (Line.flush_drained line).2 with same | noted
    · rw [same]
    · rw [noted]
      rfl
  exact ⟨_, made.before (calls ▸ drained)⟩

theorem Circuit.read_made (name : String) (size : Nat) {budget : Nat} {circuit : Circuit}
    (connected : circuit.session.connected = true) (someBudget : budget ≠ 0) :
    ∃ outcome, Made (.read (.client circuit.session.label) size outcome) circuit.record.calls
      (circuit.read name size budget).2.record.calls := by
  obtain ⟨budget, rfl⟩ := Nat.exists_eq_succ_of_ne_zero someBudget
  obtain ⟨interruptions, calls, _⟩ := readStream_calls size circuit.toLine
  have made : Made (.read (.client circuit.session.label) size
      (circuit.toLine.handle.readStream size).1) circuit.record.calls
      (circuit.toLine.handle.readStream size).2.record.calls := by
    rw [calls]
    exact .attempts (Call.read (.client circuit.session.label) size) _ interruptions
  refine ⟨_, made.before ?_⟩
  unfold read serve
  rw [if_pos connected]
  split
  · next handle read =>
      rw [read]
      exact List.suffix_rfl
  · next bytes handle _ read =>
      rw [read]
      have forwarded := forward_receives name bytes (circuit.overStream handle)
      split
      · next errno after failed =>
          rw [failed] at forwarded
          exact forwarded.grows
      · next violation after broken =>
          rw [broken] at forwarded
          exact forwarded.grows
      · next after passed =>
          rw [passed] at forwarded
          exact forwarded.grows.trans (serve_receives name size budget after).grows
  · next errno handle read =>
      rw [read]
      split <;> exact List.suffix_rfl

namespace Site

/-- A client has been served as the flags ask for. Its pending tail is written, it is read, or it
is found to have hung up; if its session is over before it is read, it has left. -/
structure Attended (session : Session) (flags : Flags) (before after : Site) : Prop
    extends Attends session.label before after where
  wrote : flags.writable = true → session.pending ≠ [] →
    ∃ outcome,
      Made (.write (.client session.label) session.pending outcome) before.calls after.calls
  read : flags.readable = true → before.relay.readBudget ≠ 0 →
    (∃ outcome, Made (.read (.client session.label) Tunnel.maxPacketSize outcome) before.calls
      after.calls) ∨ ∀ one ∈ after.relay.roster.sessions, one.id ≠ session.id
  parted : flags.readable = false → isBroken flags = true →
    ∀ one ∈ after.relay.roster.sessions, one.id ≠ session.id

section

variable {site : Site} {session : Session}

theorem readClient_attends (orderly : site.Orderly)
    (found : site.relay.roster.find? session.id = some session) (flags : Flags) :
    Attends session.label site (site.readClient session flags).2 := by
  unfold readClient
  split
  · split
    · exact .refl _ site
    · next name present =>
        have receives := Circuit.read_receives name Tunnel.maxPacketSize site.relay.readBudget
          (site.kernel.circuit session)
        have attends := overCircuit_attends orderly found receives
          (Circuit.read_tunnel name Tunnel.maxPacketSize site.relay.readBudget
            (site.kernel.circuit session))
        have kept := orderly.overCircuit found receives
        split
        · next errno circuit failed =>
            rw [failed] at attends
            exact attends
        · next parting circuit served =>
            rw [served] at attends kept receives
            have closed := (closeSession_attends kept
              (Roster.find?_update_self (receives.id ▸ found)) parting).1
            rw [receives.id, receives.label] at closed
            exact attends.trans closed
        · next disposition circuit _ served =>
            rw [served] at attends
            exact attends
  · split
    · exact (closeSession_attends orderly found .hangUp).1
    · exact .refl _ site

theorem readClient_reads (connected : session.connected = true)
    (present : site.relay.tunnel.isSome) (someBudget : site.relay.readBudget ≠ 0) {flags : Flags}
    (readable : flags.readable = true) :
    ∃ outcome, Made (.read (.client session.label) Tunnel.maxPacketSize outcome) site.calls
      (site.readClient session flags).2.calls := by
  have same : (site.kernel.circuit session).session.connected = true := connected
  obtain ⟨name, tunnel⟩ := Option.isSome_iff_exists.mp present
  obtain ⟨outcome, made⟩ := Circuit.read_made name Tunnel.maxPacketSize same someBudget
  refine ⟨outcome, ?_⟩
  unfold readClient
  simp only [if_pos readable, tunnel]
  split
  · next errno circuit failed =>
      rw [failed] at made
      exact made
  · next parting circuit served =>
      rw [served] at made
      refine made.before ?_
      unfold closeSession
      split
      · exact List.suffix_rfl
      · exact List.suffix_cons _ _
  · next disposition circuit _ served =>
      rw [served] at made
      exact made

theorem readClient_parts (orderly : site.Orderly)
    (found : site.relay.roster.find? session.id = some session) {flags : Flags}
    (unreadable : flags.readable = false) (broken : isBroken flags = true) :
    ∀ one ∈ (site.readClient session flags).2.relay.roster.sessions, one.id ≠ session.id := by
  unfold readClient
  rw [if_neg (by simp [unreadable]), if_pos broken]
  exact (closeSession_attends orderly found .hangUp).2

theorem serveClient_attended (orderly : site.Orderly)
    (found : site.relay.roster.find? session.id = some session)
    (connected : session.connected = true) (present : site.relay.tunnel.isSome) (flags : Flags) :
    Attended session flags site (site.serveClient session.id flags).2 := by
  unfold serveClient
  simp only [found]
  split
  · next writable =>
      have sends := Line.flush_sends (site.kernel.line session)
      have inbound := Line.flush_keeps
        (fun bytes endpoint same => (endpoint.write_inbound bytes).trans same)
        (site.kernel.line session) (rfl : (site.kernel.line session).stream.inbound = _)
      have attends := overLine_attends orderly found sends inbound
      have wrote := Line.flush_made (site.kernel.line session)
      have kept := orderly.overLine found sends
      have still := Roster.find?_update_self (sends.id ▸ found)
      have counts := (Line.flush_counts (site.kernel.line session)).2
      split
      · next parting line broke =>
          -- The tail could not be written: the session has left before it is read.
          rw [broke] at attends wrote kept still sends
          obtain ⟨closed, gone⟩ := closeSession_attends kept still parting
          rw [sends.id] at closed gone
          rw [sends.label] at closed
          refine ⟨attends.trans closed, ?_, fun _ _ => .inr gone, fun _ _ => gone⟩
          intro _ somePending
          obtain ⟨outcome, made⟩ := wrote somePending
          exact ⟨outcome, made.before closed.grows⟩
      · next line flushed =>
          rw [flushed] at attends wrote kept still sends counts
          have later := readClient_attends kept still flags
          rw [sends.label] at later
          refine ⟨attends.trans later, ?_, ?_, ?_⟩
          · intro _ somePending
            obtain ⟨outcome, made⟩ := wrote somePending
            exact ⟨outcome, made.before later.grows⟩
          · intro readable someBudget
            have stillConnected : line.session.connected = true := by
              simp only [Except.isOk, Except.toBool, Bool.and_true] at counts
              exact counts.trans connected
            have stillPresent : (site.overLine line).relay.tunnel.isSome := present
            obtain ⟨outcome, made⟩ := readClient_reads stillConnected stillPresent someBudget
              readable
            rw [sends.label] at made
            exact .inl ⟨outcome, made.after attends.grows⟩
          · intro unreadable broken
            have gone := readClient_parts kept still unreadable broken
            rw [sends.id] at gone
            exact gone
  · next unwritable =>
      refine ⟨readClient_attends orderly found flags, ?_, ?_, ?_⟩
      · exact fun writable => absurd writable unwritable
      · exact fun readable someBudget =>
          .inl (readClient_reads connected present someBudget readable)
      · exact fun unreadable broken => readClient_parts orderly found unreadable broken

end

end Site
end PacketRelay
