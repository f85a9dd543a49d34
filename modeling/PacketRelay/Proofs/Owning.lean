import PacketRelay.Proofs.Ending
import PacketRelay.Proofs.Transparency

/-!
Who owns a descriptor, and for how long. What has been opened and not been closed
is exactly what the relay holds. Main statement: at every moment of every run a
call is made on open descriptors only, an accepted stream is open as long as its
session is on the roster, and whatever was opened has been closed exactly once
when the relay ends.
-/

namespace PacketRelay

open Kernel (Call Descriptor)

/-- Whether a call is made on a descriptor. To close one is to use it a last time. -/
def Kernel.Call.uses (descriptor : Descriptor) : Call → Bool
  | .read used .. | .write used .. | .unblock used _ | .resize used .. | .close used =>
      used = descriptor
  | .accept _ => descriptor = .channel
  | .poll _ watched _ => watched.any fun entry => entry.1 = descriptor
  | .openTunnel _ | .attach .. | .removeFile .. | .bind .. | .changeMode .. => false

/-- What a relay holds open, in the order in which it is watched. -/
def Relay.held (relay : Relay) : List Descriptor :=
  (if relay.tunnel.isSome then [.tunnel] else []) ++
  (if relay.channel.isOpen then [.channel] else []) ++
  relay.roster.sessions.map fun session => .client session.label

namespace History

def acceptedBy : Call → Option Nat
  | .accept (.ok label) => some label
  | _ => none

def accepted (calls : List Call) : List Nat :=
  calls.reverse.filterMap acceptedBy

theorem mem_accepted {label : Nat} {calls : List Call} :
    label ∈ accepted calls ↔ .accept (.ok label) ∈ calls := by
  constructor
  · intro listed
    obtain ⟨call, member, accepts⟩ := List.mem_filterMap.mp listed
    unfold acceptedBy at accepts
    split at accepts
    · cases accepts
      exact List.mem_reverse.mp member
    · cases accepts
  · exact fun accepts => List.mem_filterMap.mpr ⟨_, List.mem_reverse.mpr accepts, rfl⟩

theorem accepted_append (new calls : List Call) :
    accepted (new ++ calls) = accepted calls ++ accepted new := by
  simp [accepted]

theorem accepted_eq_nil (calls : List Call)
    (noneAccepted : ∀ call ∈ calls, acceptedBy call = none) :
    accepted calls = [] := by
  simpa [accepted] using noneAccepted

/-- How often a descriptor has been opened. The tunnel and the channel are open
from the start; a client's stream is opened when it is accepted. -/
def openings : Descriptor → List Call → Nat
  | .tunnel, _ | .channel, _ => 1
  | .client label, calls => (accepted calls).count label

def closings (descriptor : Descriptor) (calls : List Call) : Nat :=
  (closed calls).count descriptor

structure Open (descriptor : Descriptor) (calls : List Call) : Prop where
  opened : openings descriptor calls = 1
  unclosed : closings descriptor calls = 0

/-- What is held is what was opened and not closed, nothing is opened twice, and
only open descriptors were ever used. -/
structure Owned (held : List Descriptor) (calls : List Call) : Prop where
  balance : ∀ descriptor, openings descriptor calls =
    closings descriptor calls + held.count descriptor
  once : ∀ descriptor, openings descriptor calls ≤ 1
  used : ∀ call earlier, call :: earlier <:+ calls →
    ∀ descriptor, call.uses descriptor = true → Open descriptor earlier

section

variable {call : Call} {calls : List Call} {descriptor : Descriptor} {label : Nat}

theorem closings_plain (plain : closedBy call = none) :
    closings descriptor (call :: calls) = closings descriptor calls := by
  simp [closings, closed, plain]

theorem closings_close (calls : List Call) (descriptor other : Descriptor) :
    closings other (.close descriptor :: calls) =
      closings other calls + [descriptor].count other := by
  simp [closings, closed, closedBy]

theorem count_first (first : Descriptor) (rest : List Descriptor) :
    (first :: rest).count descriptor = [first].count descriptor + rest.count descriptor := by
  rw [← List.count_append, List.singleton_append]

theorem openings_plain (plain : acceptedBy call = none) :
    openings descriptor (call :: calls) = openings descriptor calls := by
  cases descriptor with
  | tunnel | channel => rfl
  | client label => simp [openings, accepted, plain]

theorem openings_accept (calls : List Call) (label : Nat) (other : Descriptor) :
    openings other (.accept (.ok label) :: calls) =
      openings other calls + [Descriptor.client label].count other := by
  cases other with
  | tunnel | channel => rfl
  | client other =>
      by_cases same : label = other <;> simp [openings, accepted, acceptedBy, same]

theorem openings_untouched (untouched : ∀ call ∈ calls, call.client? ≠ some label) :
    openings (.client label) calls = 0 := by
  apply List.count_eq_zero.mpr
  exact fun listed => untouched _ (mem_accepted.mp listed) rfl

end

namespace Owned

variable {held other : List Descriptor} {call : Call} {calls : List Call}
  {descriptor : Descriptor} {label : Nat}

theorem open_iff (owned : Owned held calls) : Open descriptor calls ↔ descriptor ∈ held := by
  have balance := owned.balance descriptor
  have once := owned.once descriptor
  rw [← List.count_pos_iff]
  constructor
  · rintro ⟨opened, unclosed⟩
    omega
  · intro holds
    exact ⟨by omega, by omega⟩

theorem perm (owned : Owned held calls) (same : held.Perm other) : Owned other calls where
  balance descriptor := by
    rw [← same.count_eq]
    exact owned.balance descriptor
  once := owned.once
  used := owned.used

theorem used_cons (owned : Owned held calls)
    (uses : ∀ descriptor, call.uses descriptor = true → descriptor ∈ held) :
    ∀ made earlier, made :: earlier <:+ call :: calls →
      ∀ descriptor, made.uses descriptor = true → Open descriptor earlier := by
  intro made earlier suffix descriptor isUsed
  rcases List.suffix_cons_iff.mp suffix with same | sooner
  · cases same
    exact owned.open_iff.mpr (uses descriptor isUsed)
  · exact owned.used made earlier sooner descriptor isUsed

theorem aside (owned : Owned held calls) (plain : acceptedBy call = none ∧ closedBy call = none)
    (uses : ∀ descriptor, call.uses descriptor = true → descriptor ∈ held) :
    Owned held (call :: calls) where
  balance descriptor := by
    rw [openings_plain plain.1, closings_plain plain.2]
    exact owned.balance descriptor
  once descriptor := by
    rw [openings_plain plain.1]
    exact owned.once descriptor
  used := owned.used_cons uses

theorem asides (owned : Owned held calls) (new : List Call)
    (plain : ∀ call ∈ new, acceptedBy call = none ∧ closedBy call = none)
    (uses : ∀ call ∈ new, ∀ descriptor, call.uses descriptor = true → descriptor ∈ held) :
    Owned held (new ++ calls) := by
  induction new with
  | nil => exact owned
  | cons call rest ih =>
      have later := ih (fun other member => plain other (List.mem_cons_of_mem call member))
        (fun other member => uses other (List.mem_cons_of_mem call member))
      exact later.aside (plain call List.mem_cons_self) (uses call List.mem_cons_self)

theorem accept (owned : Owned held calls) (listening : .channel ∈ held)
    (fresh : openings (.client label) calls = 0) :
    Owned (.client label :: held) (.accept (.ok label) :: calls) where
  balance descriptor := by
    rw [openings_accept, closings_plain rfl, owned.balance descriptor, count_first _ held]
    omega
  once descriptor := by
    rw [openings_accept]
    by_cases same : descriptor = .client label
    · rw [same, fresh]
      simp
    · have absent : [Descriptor.client label].count descriptor = 0 :=
        List.count_eq_zero.mpr (by simpa using same)
      rw [absent]
      exact owned.once descriptor
  used := owned.used_cons fun descriptor isUsed => by
    rw [of_decide_eq_true isUsed]
    exact listening

theorem close (owned : Owned (descriptor :: held) calls) :
    Owned held (.close descriptor :: calls) where
  balance other := by
    rw [openings_plain rfl, closings_close, owned.balance other, count_first _ held]
    omega
  once other := by
    rw [openings_plain rfl]
    exact owned.once other
  used := owned.used_cons fun other isUsed => by
    rw [← of_decide_eq_true isUsed]
    exact List.mem_cons_self

end Owned
end History

/-! ## Turns -/

open History (Owned)

namespace Roster

variable {roster : Roster} {session : Session}

/-- Who is removed held one stream, and the rest is held on. -/
theorem remove_labels (found : roster.find? session.id = some session) :
    (roster.sessions.map (·.label)).Perm
      (session.label :: (roster.remove session.id).2.sessions.map (·.label)) := by
  obtain ⟨before, after, sessions, absent⟩ : ∃ before after,
      roster.sessions = before ++ session :: after ∧
        ∀ other ∈ before, ¬ other.id = session.id := by
    obtain ⟨_, before, after, sessions, absent⟩ := List.find?_eq_some_iff_append.mp found
    exact ⟨before, after, sessions, by simpa using absent⟩
  have removed : (roster.remove session.id).2.sessions = before ++ after := by
    simp only [remove, sessions]
    rw [List.eraseP_append_right _ (by simpa using absent), List.eraseP_cons_of_pos (by simp)]
  rw [removed, sessions, List.map_append, List.map_append, List.map_cons]
  exact List.perm_middle

end Roster

namespace Relay

variable {relay other : Relay}

theorem held_of (tunnel : other.tunnel.isSome = relay.tunnel.isSome)
    (channel : other.channel.isOpen = relay.channel.isOpen)
    (labels : other.roster.sessions.map (·.label) = relay.roster.sessions.map (·.label)) :
    other.held = relay.held := by
  have streams : other.roster.sessions.map (fun session => Descriptor.client session.label) =
      relay.roster.sessions.map fun session => Descriptor.client session.label := by
    simpa only [List.map_map, Function.comp_def] using congrArg (List.map Descriptor.client) labels
  simp only [held, tunnel, channel, streams]

theorem held_perm {label : Nat} (tunnel : other.tunnel = relay.tunnel)
    (channel : other.channel = relay.channel)
    (labels : (relay.roster.sessions.map (·.label)).Perm
      (label :: other.roster.sessions.map (·.label))) :
    relay.held.Perm (.client label :: other.held) := by
  have streams := labels.map Descriptor.client
  simp only [List.map_cons, List.map_map, Function.comp_def] at streams
  simp only [held, tunnel, channel]
  exact (streams.append_left _).trans List.perm_middle

theorem mem_held {descriptor : Descriptor} : descriptor ∈ relay.held ↔
    match descriptor with
    | .tunnel => relay.tunnel.isSome = true
    | .channel => relay.channel.isOpen = true
    | .client label => ∃ session ∈ relay.roster.sessions, session.label = label := by
  cases descriptor <;> simp [held]

end Relay

namespace Site

variable {site : Site} {session : Session}

def Owns (site : Site) : Prop :=
  Owned site.relay.held site.calls

theorem Owns.same {next : Site} (owns : site.Owns) (held : next.relay.held = site.relay.held)
    (new : List Call) (calls : next.calls = new ++ site.calls)
    (plain : ∀ call ∈ new, History.acceptedBy call = none ∧ History.closedBy call = none)
    (uses : ∀ call ∈ new, ∀ descriptor, call.uses descriptor = true →
      descriptor ∈ site.relay.held) :
    next.Owns := by
  unfold Owns
  rw [held, calls]
  exact owns.asides new plain uses

theorem Owns.overLine (owns : site.Owns) (ordered : site.relay.roster.Ordered) {line : Line}
    (found : site.relay.roster.find? session.id = some session)
    (sends : Line.Sends (site.kernel.line session) line) : (site.overLine line).Owns := by
  obtain ⟨new, appended, writes⟩ := sends.only
  have labels := Roster.update_labels ordered found sends.id sends.label
  refine owns.same (Relay.held_of rfl rfl labels) new appended ?_ ?_
  · intro call member
    obtain ⟨bytes, result, rfl⟩ := writes call member
    exact ⟨rfl, rfl⟩
  · intro call member descriptor isUsed
    obtain ⟨bytes, result, rfl⟩ := writes call member
    rw [← of_decide_eq_true isUsed]
    exact Relay.mem_held.mpr ⟨session, (Roster.mem_of_find? found).1, rfl⟩

theorem Owns.overCircuit (owns : site.Owns) (ordered : site.relay.roster.Ordered)
    (present : site.relay.tunnel.isSome) {circuit : Circuit}
    (found : site.relay.roster.find? session.id = some session)
    (receives : Circuit.Receives (site.kernel.circuit session) circuit) :
    (site.overCircuit circuit).Owns := by
  obtain ⟨new, appended, own⟩ := receives.only
  have labels := Roster.update_labels ordered found receives.id receives.label
  refine owns.same (Relay.held_of rfl rfl labels) new appended ?_ ?_
  · intro call member
    rcases own call member with ⟨size, result, rfl⟩ | ⟨packet, result, rfl⟩
    · exact ⟨rfl, rfl⟩
    · exact ⟨rfl, rfl⟩
  · intro call member descriptor isUsed
    rcases own call member with ⟨size, result, rfl⟩ | ⟨packet, result, rfl⟩
    · rw [← of_decide_eq_true isUsed]
      exact Relay.mem_held.mpr ⟨session, (Roster.mem_of_find? found).1, rfl⟩
    · rw [← of_decide_eq_true isUsed]
      exact Relay.mem_held.mpr present

theorem Owns.receive (owns : site.Owns) (present : site.relay.tunnel.isSome)
    {received : Except Errno (Option Bytes)} {handle : Kernel.Handle}
    (made : Tunnel.receive Tunnel.maxPacketSize site.kernel.tunnelHandle = (received, handle)) :
    (site.overTunnel handle).Owns := by
  obtain ⟨result, interruptions, _, _, record⟩ := Tunnel.receive_record made
  have reads : ∀ call ∈ Kernel.Handle.attempts (Call.read .tunnel Tunnel.maxPacketSize) result
      interruptions, ∃ result, call = .read .tunnel Tunnel.maxPacketSize result := by
    intro call member
    rcases List.mem_cons.mp member with rfl | retried
    · exact ⟨_, rfl⟩
    · exact ⟨_, List.eq_of_mem_replicate retried⟩
  refine owns.same rfl _ (congrArg Record.calls record) ?_ ?_
  · intro call member
    obtain ⟨result, rfl⟩ := reads call member
    exact ⟨rfl, rfl⟩
  · intro call member descriptor isUsed
    obtain ⟨result, rfl⟩ := reads call member
    rw [← of_decide_eq_true isUsed]
    exact Relay.mem_held.mpr present

theorem watched_held (relay : Relay) : (watched relay).map (·.2.1) = relay.held := by
  simp only [watched, Relay.held, List.map_append, List.map_map, Function.comp_def]
  congr 2
  · split <;> rfl
  · split <;> rfl

theorem Owns.poll (owns : site.Owns) :
    Owns { site with
      kernel := (site.kernel.poll site.relay.pollTimeout ((watched site.relay).map (·.2))).2 } := by
  obtain ⟨_, _, _, _, result, polled⟩ :=
    Kernel.poll_frame site.relay.pollTimeout ((watched site.relay).map (·.2)) site.kernel
  rw [polled]
  refine owns.same rfl [.poll site.relay.pollTimeout _ result] rfl
    (by simp [History.acceptedBy, History.closedBy]) ?_
  intro call member descriptor isUsed
  rw [List.mem_singleton.mp member] at isUsed
  obtain ⟨entry, listed, same⟩ := List.any_eq_true.mp isUsed
  obtain ⟨source, inside, rfl⟩ := List.mem_map.mp listed
  rw [← watched_held, ← of_decide_eq_true same]
  exact List.mem_map.mpr ⟨source, inside, rfl⟩

theorem Owns.close {next : Site} {descriptor : Descriptor} (owns : site.Owns)
    (held : site.relay.held.Perm (descriptor :: next.relay.held))
    (calls : next.calls = .close descriptor :: site.calls) : next.Owns := by
  unfold Owns
  rw [calls]
  exact (owns.perm held).close

theorem Owns.closeTunnel (owns : site.Owns) : site.closeTunnel.Owns := by
  unfold Site.closeTunnel
  split
  · exact owns
  · next name present =>
      have others : site.relay.held = .tunnel :: Relay.held { site.relay with tunnel := none } := by
        simp [Relay.held, present]
      exact owns.close (List.Perm.of_eq others) rfl

theorem Owns.closeChannel (owns : site.Owns) : site.closeChannel.Owns := by
  unfold Site.closeChannel
  cases isOpen : site.relay.channel.isOpen with
  | false =>
      rw [Channel.close_closed _ isOpen]
      exact owns
  | true =>
      obtain ⟨failure, calls⟩ := Channel.close_calls site.kernel isOpen
      change Owned
        (Relay.held { site.relay with channel := (site.relay.channel.close site.kernel).1 })
        (site.relay.channel.close site.kernel).2.record.calls
      rw [calls, Channel.close_channel]
      have others : site.relay.held.Perm
          (.channel :: Relay.held { site.relay with channel.isOpen := false }) := by
        simp only [Relay.held, isOpen, Bool.false_eq_true, ↓reduceIte, List.append_nil,
          List.append_assoc, List.singleton_append]
        exact List.perm_middle
      exact (owns.perm others).close.aside ⟨rfl, rfl⟩ (by simp [Call.uses])

/-! ## Accepting -/

theorem failed_uses {failed : List Call} {held : List Descriptor} (listening : .channel ∈ held)
    (fails : ∀ call ∈ failed, ∃ errno, call = .accept (.error errno)) :
    (∀ call ∈ failed, History.acceptedBy call = none ∧ History.closedBy call = none) ∧
      ∀ call ∈ failed, ∀ descriptor, call.uses descriptor = true → descriptor ∈ held := by
  constructor
  · intro call member
    obtain ⟨errno, rfl⟩ := fails call member
    exact ⟨rfl, rfl⟩
  · intro call member descriptor isUsed
    obtain ⟨errno, rfl⟩ := fails call member
    rw [of_decide_eq_true isUsed]
    exact listening

/-- What has been accepted is held, be it a session's yet or not. -/
def heldWith (result : Except Errno (Option Nat)) (relay : Relay) : List Descriptor :=
  match result with
  | .ok (some label) => .client label :: relay.held
  | _ => relay.held

theorem Owns.accept (owns : site.Owns) {frontier : Nat} (numbered : Numbered frontier site)
    {result : Except Errno (Option Nat)} {kernel : Kernel}
    (made : site.relay.channel.accept site.kernel = (result, kernel)) :
    Owned (heldWith result site.relay) kernel.record.calls := by
  cases isOpen : site.relay.channel.isOpen with
  | false =>
      simp only [Channel.accept, isOpen, Bool.false_eq_true, ↓reduceIte] at made
      cases made
      exact owns
  | true =>
      have listening : Descriptor.channel ∈ site.relay.held := Relay.mem_held.mpr isOpen
      obtain ⟨outcome, knocks, ⟨new, notices⟩, taking, _, always⟩ :=
        Channel.accept_spec site.relay.channel site.kernel.knocks site.kernel.faults.resize
      rw [always site.kernel rfl rfl] at made
      obtain ⟨rfl, rfl⟩ := Prod.mk.inj made
      change Channel.Taking _ _ _ new at taking
      change Owned _ (new ++ site.calls)
      -- Before anyone is accepted, accepts may have failed; the stream is new to the relay.
      have started {label : Nat} {fault : Option Errno} {before later : List Kernel.Knock}
          {failed : List Call}
          (split : site.kernel.knocks = before ++ .connection label fault :: later)
          (fails : ∀ call ∈ failed, ∃ errno, call = .accept (.error errno)) :
          Owned (.client label :: site.relay.held)
            (.unblock (.client label) fault :: .accept (.ok label) :: (failed ++ site.calls)) := by
        obtain ⟨⟨above, _⟩, _⟩ := numbered.next_waiting split
        have waited := owns.asides failed (failed_uses listening fails).1
          (failed_uses listening fails).2
        have fresh : History.openings (.client label) (failed ++ site.calls) = 0 := by
          apply History.openings_untouched
          intro call member
          rcases List.mem_append.mp member with isFailed | old
          · obtain ⟨errno, rfl⟩ := fails call isFailed
            rintro ⟨⟩
          · exact numbered.untouched above call old
        refine (waited.accept listening fresh).aside ⟨rfl, rfl⟩ ?_
        intro descriptor isUsed
        rw [← of_decide_eq_true isUsed]
        exact List.mem_cons_self
      cases taking with
      | without noneTaken _ failed =>
          have same : heldWith outcome site.relay = site.relay.held := by
            unfold heldWith
            split
            · next label => exact absurd rfl (noneTaken label)
            · rfl
          rw [same]
          exact owns.asides new (failed_uses listening failed).1 (failed_uses listening failed).2
      | @ready label before later resized failed split resizes fails =>
          have ready := started split fails
          rw [List.append_assoc]
          refine ready.asides resized ?_ ?_
          · intro call member
            obtain ⟨buffer, size, fault, rfl⟩ := resizes call member
            exact ⟨rfl, rfl⟩
          · intro call member descriptor isUsed
            obtain ⟨buffer, size, fault, rfl⟩ := resizes call member
            rw [← of_decide_eq_true isUsed]
            exact List.mem_cons_self
      | refused before split fails => exact (started split fails).close

theorem Owns.enroll {label : Nat} (owned : Owned (.client label :: site.relay.held) site.calls) :
    (site.enroll label).Owns := by
  have appended : (site.enroll label).relay.held = site.relay.held ++ [.client label] := by
    simp only [Site.enroll, Roster.insert, Relay.held, List.map_append, List.append_assoc]
    rfl
  unfold Owns
  rw [appended]
  exact owned.perm (List.perm_append_singleton _ _).symm

end Site

open Site (Owns)

theorem Turn.owns (stage next : Stage) (turn : Turn stage next) (sound : stage.Sound)
    (owns : stage.site.Owns) : next.site.Owns := by
  obtain ⟨frontier, numbered⟩ := sound.numbered
  cases turn with
  | noted | hungUp | marked => exact owns
  | polled site => exact owns.poll
  | idle received present => exact owns.receive present received
  | took received _ present => exact owns.receive present received
  | dropped received _ present => exact owns.receive present received
  | offered found sent => exact owns.overLine sound.ordered found (.of_send sent)
  | flushed found flush => exact owns.overLine sound.ordered found (.of_flush flush)
  | broke found flush => exact owns.overLine sound.ordered found (.of_flush flush)
  | read found served present =>
      exact owns.overCircuit sound.ordered present found (.of_read served)
  | @left site session parting leaving found =>
      exact owns.close (Relay.held_perm rfl rfl (Roster.remove_labels found)) rfl
  | @accepted site label kernel taken => exact Owns.enroll (owns.accept numbered taken)
  | @refused site kernel result taken noneTaken =>
      -- What was accepted would be held, but nothing was.
      have kept := owns.accept numbered taken
      unfold Site.heldWith at kept
      split at kept
      · next label => exact absurd rfl (noneTaken label)
      · exact kept
  | closedTunnel site => exact owns.closeTunnel
  | @dismissed site session others sessions =>
      refine owns.close (Relay.held_perm rfl rfl ?_) rfl
      rw [sessions, List.map_cons]
      exact List.Perm.refl _
  | closedChannel site => exact owns.closeChannel

theorem Fatal.owns (site : Site) (failure : Failure) (after : Site)
    (fatal : Fatal site failure after) (sound : Stage.Sound (.rest site)) (owns : site.Owns) :
    after.Owns := by
  cases fatal with
  | poll failed serious =>
      have polled := owns.poll
      rw [failed] at polled
      exact polled
  | receive failed present => exact owns.receive present failed
  | transmit found failed present =>
      exact owns.overCircuit sound.ordered present found (.of_read failed)

namespace Site

variable {site : Site}

theorem Opened.owns (opened : site.Opened) : site.Owns := by
  have nothing : Owned [.tunnel, .channel] [] := by
    constructor
    · intro descriptor
      cases descriptor <;> simp [History.openings, History.closings, History.closed,
        History.accepted]
    · intro descriptor
      cases descriptor <;> simp [History.openings, History.accepted]
    · intro call earlier suffix
      exact absurd (List.suffix_nil.mp suffix) (List.cons_ne_nil call earlier)
  have held : site.relay.held = [.tunnel, .channel] := by
    obtain ⟨name, channel, settings, isOpen, relay⟩ := opened.relay
    simp [relay, Relay.withTunnel, Relay.held, isOpen]
  have opening := opened.calls
  unfold Owns
  rw [held, ← List.append_nil site.calls]
  refine nothing.asides site.calls ?_ ?_
  · intro call member
    have isOpening := opening call member
    unfold Call.isOpening at isOpening
    split at isOpening <;> first | exact ⟨rfl, rfl⟩ | cases isOpening
  · intro call member descriptor isUsed
    have isOpening := opening call member
    unfold Call.isOpening at isOpening
    split at isOpening <;> simp_all [Call.uses]

theorem owns_lasting : Lasting fun stage => stage.site.Owns where
  turn stage next turn sound owns := turn.owns stage next sound owns
  deed site deed _ owns := by
    have same := congrArg Record.calls (Kernel.undergo_record deed site.kernel)
    exact owns.same rfl [] same (by simp) (by simp)
  opened site opened := opened.owns
  failing site failure after fatal sound owns := fatal.owns site failure after sound owns
  flagged site stop owns := owns

theorem Reachable.owns (reachable : site.Reachable) : site.Owns :=
  (reachable.lasting owns_lasting).2

/-- A relay that has ended holds nothing, so all that was opened has been closed. -/
theorem Owns.ended (owns : site.Owns) (ended : site.relay.Ended) (descriptor : Descriptor) :
    History.closings descriptor site.calls = History.openings descriptor site.calls := by
  have nothing : site.relay.held = [] := by
    simp [Relay.held, ended.tunnel, ended.channel, ended.roster]
  have balance := Owned.balance owns descriptor
  rw [nothing, List.count_nil] at balance
  exact balance.symm

/-- At any time the streams of the sessions on the roster, and no others, are open, and so
are the tunnel and the channel while the relay has them. Every call so far was made on open
descriptors. Once the relay has been shut down or has gone out of use, the tunnel,
the channel and every stream that was ever accepted have been closed exactly once. -/
theorem closed_exactly_once (site : Site) (reachable : site.Reachable) :
    (∀ label, History.Open (.client label) site.calls ↔
      ∃ session ∈ site.relay.roster.sessions, session.label = label) ∧
    (History.Open .tunnel site.calls ↔ site.relay.tunnel.isSome = true) ∧
    (History.Open .channel site.calls ↔ site.relay.channel.isOpen = true) ∧
    (∀ call earlier, call :: earlier <:+ site.calls →
      ∀ descriptor, call.uses descriptor = true → History.Open descriptor earlier) ∧
    ∀ last, (last = site.shutdown ∨ last = site.release) →
      History.closings .tunnel last.calls = 1 ∧ History.closings .channel last.calls = 1 ∧
      ∀ label, .accept (.ok label) ∈ last.calls →
        History.closings (.client label) last.calls = 1 := by
  have owns := reachable.owns
  refine ⟨fun label => owns.open_iff.trans Relay.mem_held, owns.open_iff.trans Relay.mem_held,
    owns.open_iff.trans Relay.mem_held, owns.used, ?_⟩
  intro last isLast
  obtain rfl : last = site.shutdown := by
    rcases isLast with rfl | rfl
    · rfl
    · exact release_eq_shutdown site
  have atLast : site.shutdown.Owns := reachable.shutdown.owns
  have closed := atLast.ended site.shutdown_ended
  refine ⟨closed .tunnel, closed .channel, ?_⟩
  intro label accepts
  have once := Owned.once atLast (.client label)
  have someTime : 0 < History.openings (.client label) site.shutdown.calls :=
    List.count_pos_iff.mpr (History.mem_accepted.mpr accepts)
  rw [closed]
  omega

/-- The stream of the first client breaks when a packet is offered to it, and then the poll's
report of its hang-up comes up in the same pass. -/
theorem closed_once_after_broadcast :
    let site := (fresh {}).play [.world (.connect 2 none), .pass,
      .world (.supplyTunnel { inbound := [.data [7]] }),
      .world (.supplyClient 1
        { outbound := [.failure ⟨32⟩], forced := some { readable := true, hungUp := true } }),
      .pass]
    site.Reachable ∧
      (site.relay.roster.sessions.map (·.label) = [2] ∧
        History.closings (.client 1) site.calls = 1) ∧
      ¬ History.Open (.client 1) site.calls ∧ History.Open (.client 2) site.calls ∧
      History.closings (.client 1) site.release.calls = 1 ∧
      History.closings (.client 2) site.release.calls = 1 := by
  have reachable : ∀ moves, ((fresh {}).play moves).Reachable :=
    fun moves => .play (.opened (fresh_opened _)) moves
  have facts (site : Site) (reached : site.Reachable)
      (sessions : site.relay.roster.sessions.map (·.label) = [2])
      (accepted : 1 ∈ History.accepted site.calls ∧ 2 ∈ History.accepted site.calls) :
      ¬ History.Open (.client 1) site.calls ∧ History.Open (.client 2) site.calls ∧
        History.closings (.client 1) site.release.calls = 1 ∧
        History.closings (.client 2) site.release.calls = 1 := by
    obtain ⟨streams, _, _, _, last⟩ := closed_exactly_once site reached
    have closed := (last site.release (.inr rfl)).2.2
    have grown : site.calls <:+ site.release.calls := by
      rw [release_eq_shutdown]
      exact (shutdown_path site).grows
    have listed (label : Nat) : History.Open (.client label) site.calls ↔ label ∈ [2] := by
      rw [streams, ← sessions, List.mem_map]
    exact ⟨by simp [listed], by simp [listed],
      closed 1 (grown.subset (History.mem_accepted.mp accepted.1)),
      closed 2 (grown.subset (History.mem_accepted.mp accepted.2))⟩
  exact ⟨reachable _, by decide +kernel,
    facts _ (reachable _) (by decide +kernel) (by decide +kernel)⟩

end Site
end PacketRelay
