import PacketRelay.Proofs.Accepting
import PacketRelay.Proofs.Ledger
import PacketRelay.Proofs.Order
import PacketRelay.Proofs.Paths
import PacketRelay.Proofs.Service

/-!
Clients are numbered as they connect, and accepted in that order. A frontier
runs along the numbers: nothing has happened yet to a client beyond it, and
every session belongs to a client that is not.
-/

namespace PacketRelay

open Kernel (Call Knock Handle Endpoint)
open History (enrolled enrolledBy named)

namespace Kernel

def Knock.label? : Knock → Option Nat
  | .connection label _ => some label
  | .failure _ => none

def waiting (kernel : Kernel) : List Nat :=
  kernel.knocks.filterMap Knock.label?

theorem reports_frame (watched : List (Descriptor × Flags)) (kernel : Kernel) :
    ∃ tunnel clients channelForced, (kernel.reports watched).2 =
      { kernel with tunnel, clients, channelForced } := by
  induction watched generalizing kernel with
  | nil => exact ⟨_, _, _, rfl⟩
  | cons first rest ih =>
      obtain ⟨descriptor, requested⟩ := first
      have one : ∃ tunnel clients channelForced, (kernel.reportOn descriptor requested).2 =
          { kernel with tunnel, clients, channelForced } := by
        unfold reportOn
        cases descriptor with
        | tunnel | client => exact ⟨_, _, _, rfl⟩
        | channel =>
            dsimp only
            split
            · exact ⟨_, _, _, rfl⟩
            · exact ⟨_, _, _, rfl⟩
      obtain ⟨_, _, _, made⟩ := one
      obtain ⟨tunnel, clients, channelForced, later⟩ := ih (kernel.reportOn descriptor requested).2
      refine ⟨tunnel, clients, channelForced, ?_⟩
      rw [made] at later
      simp only [reports, made, later]

theorem poll_frame (timeout : Nat) (watched : List (Descriptor × Flags)) (kernel : Kernel) :
    ∃ tunnel clients channelForced pollFaults result, (kernel.poll timeout watched).2 =
      { kernel with
        tunnel, clients, channelForced, pollFaults
        record := kernel.record.call (.poll timeout watched result) } := by
  obtain ⟨tunnel, clients, channelForced, reported⟩ := reports_frame watched kernel
  unfold poll
  dsimp only
  split
  · simp only [reported]
    exact ⟨_, _, _, _, _, rfl⟩
  · simp only [reported]
    exact ⟨_, _, _, _, _, rfl⟩

end Kernel

/-! ## Calls that leave the numbers alone -/

/-- A call that takes part in no enrolment and concerns no client beyond the frontier. -/
def Kernel.Call.Within (frontier : Nat) (call : Call) : Prop :=
  enrolledBy call = none ∧ ∀ label, call.client? = some label → label ≤ frontier

namespace Site

def calls (site : Site) : List Call := site.kernel.record.calls

theorem closeChannel_spec (site : Site) : ∃ closed left new,
    (∀ call ∈ Record.calls new, call = .close .channel ∨
      ∃ path failure, call = .removeFile path failure) ∧
    (∀ notice ∈ new.notices, notice.isParting = false) ∧
    site.closeChannel = ⟨{ site.relay with channel := closed },
      { site.kernel with files := left, record := new.onto site.kernel.record }⟩ := by
  obtain ⟨closed, left, new, own, plain, always⟩ :=
    Channel.close_spec site.relay.channel site.kernel.files site.kernel.faults
  refine ⟨closed, left, new, own, plain, ?_⟩
  unfold closeChannel
  rw [always site.kernel rfl rfl]

/-- The frontier lies below every client that waits and every one to come. -/
structure Numbered (frontier : Nat) (site : Site) : Prop where
  waiting : site.kernel.waiting.Pairwise (· < ·)
  beyond : ∀ label ∈ site.kernel.waiting, frontier < label ∧ label ≤ site.kernel.connected
  reached : frontier ≤ site.kernel.connected
  calls : ∀ call ∈ site.calls, ∀ label, call.client? = some label → label ≤ frontier
  enrolled : (enrolled site.calls).Pairwise (· < ·)
  issued : site.relay.roster.issued = (History.enrolled site.calls).length
  named : ∀ session ∈ site.relay.roster.sessions, named site.calls session.id = some session.label

namespace Numbered

variable {frontier : Nat} {site next : Site} {session other : Session}

theorem label_le (numbered : Numbered frontier site)
    (member : session ∈ site.relay.roster.sessions) : session.label ≤ frontier := by
  have listed := History.mem_of_named (numbered.named session member)
  obtain ⟨call, inside, about⟩ := History.mem_enrolled listed
  exact numbered.calls call inside _ about

theorem untouched (numbered : Numbered frontier site) {label : Nat} (above : frontier < label) :
    ∀ call ∈ site.calls, call.client? ≠ some label := fun call member about =>
  absurd (numbered.calls call member label about) (Nat.not_le_of_lt above)

theorem id_of_label (numbered : Numbered frontier site)
    (member : session ∈ site.relay.roster.sessions) (also : other ∈ site.relay.roster.sessions)
    (same : session.label = other.label) : session.id = other.id := by
  have one := numbered.named session member
  have two := numbered.named other also
  cases first : session.id with
  | zero => rw [first] at one; cases one
  | succ id =>
      cases second : other.id with
      | zero => rw [second] at two; cases two
      | succ later =>
          rw [first, same] at one
          rw [second] at two
          -- Labels grow along the ids, so the same label stands at one place only.
          obtain ⟨inOne, atOne⟩ := List.getElem?_eq_some_iff.mp one
          obtain ⟨inTwo, atTwo⟩ := List.getElem?_eq_some_iff.mp two
          have growing := List.pairwise_iff_getElem.mp numbered.enrolled
          rcases Nat.lt_trichotomy id later with less | equal | more
          · have below := growing id later inOne inTwo less
            omega
          · rw [equal]
          · have below := growing later id inTwo inOne more
            omega

/-- What makes nobody a session keeps the numbers, if the frontier moves far enough. -/
theorem grow (numbered : Numbered frontier site) {later : Nat} (further : frontier ≤ later)
    (reached : later ≤ next.kernel.connected)
    (ahead : ∀ label ∈ next.kernel.waiting, later < label) (new : List Call)
    (calls : next.calls = new ++ site.calls) (within : ∀ call ∈ new, call.Within later)
    (waiting : next.kernel.waiting.Sublist site.kernel.waiting)
    (connected : next.kernel.connected = site.kernel.connected)
    (issued : next.relay.roster.issued = site.relay.roster.issued)
    (sessions : ∀ session ∈ next.relay.roster.sessions, ∃ old ∈ site.relay.roster.sessions,
      old.id = session.id ∧ old.label = session.label) : Numbered later next := by
  have sameEnrolled : History.enrolled next.calls = History.enrolled site.calls := by
    rw [calls, History.enrolled_append, History.enrolled_eq_nil new fun call member =>
      (within call member).1, List.append_nil]
  constructor
  case waiting => exact numbered.waiting.sublist waiting
  case beyond =>
    intro label member
    rw [connected]
    exact ⟨ahead label member, (numbered.beyond label (waiting.subset member)).2⟩
  case reached => exact reached
  case calls =>
    intro call member label about
    rw [calls] at member
    rcases List.mem_append.mp member with isNew | old
    · exact (within call isNew).2 label about
    · exact Nat.le_trans (numbered.calls call old label about) further
  case enrolled =>
    rw [sameEnrolled]
    exact numbered.enrolled
  case issued =>
    rw [issued, sameEnrolled]
    exact numbered.issued
  case named =>
    intro session member
    obtain ⟨old, inside, sameId, sameLabel⟩ := sessions session member
    rw [calls, ← sameId, ← sameLabel]
    exact History.named_append new (numbered.named old inside)

theorem keep (numbered : Numbered frontier site) (new : List Call)
    (calls : next.calls = new ++ site.calls) (within : ∀ call ∈ new, call.Within frontier)
    (knocks : next.kernel.knocks = site.kernel.knocks)
    (connected : next.kernel.connected = site.kernel.connected)
    (issued : next.relay.roster.issued = site.relay.roster.issued)
    (sessions : ∀ session ∈ next.relay.roster.sessions, ∃ old ∈ site.relay.roster.sessions,
      old.id = session.id ∧ old.label = session.label) : Numbered frontier next := by
  have waiting : next.kernel.waiting = site.kernel.waiting := by
    simp only [Kernel.waiting, knocks]
  apply numbered.grow (Nat.le_refl frontier) _ _ new calls within _ connected issued sessions
  · rw [connected]
    exact numbered.reached
  · intro label member
    rw [waiting] at member
    exact (numbered.beyond label member).1
  · exact waiting ▸ List.Sublist.refl next.kernel.waiting

theorem subset (numbered : Numbered frontier site) (new : List Call)
    (calls : next.calls = new ++ site.calls) (within : ∀ call ∈ new, call.Within frontier)
    (knocks : next.kernel.knocks = site.kernel.knocks)
    (connected : next.kernel.connected = site.kernel.connected)
    (issued : next.relay.roster.issued = site.relay.roster.issued)
    (sessions : next.relay.roster.sessions ⊆ site.relay.roster.sessions) :
    Numbered frontier next :=
  numbered.keep new calls within knocks connected issued fun session member =>
    ⟨session, sessions member, rfl, rfl⟩

theorem putBack (numbered : Numbered frontier site) (new : List Call)
    (calls : next.calls = new ++ site.calls) (within : ∀ call ∈ new, call.Within frontier)
    (knocks : next.kernel.knocks = site.kernel.knocks)
    (connected : next.kernel.connected = site.kernel.connected)
    (found : site.relay.roster.find? session.id = some session)
    (roster : next.relay.roster = site.relay.roster.update other) (sameId : other.id = session.id)
    (sameLabel : other.label = session.label) : Numbered frontier next := by
  apply numbered.keep new calls within knocks connected (by rw [roster]; rfl)
  intro changed member
  rw [roster] at member
  rcases Roster.mem_update member with rfl | ⟨old, _⟩
  · exact ⟨session, (Roster.mem_of_find? found).1, sameId.symm, sameLabel.symm⟩
  · exact ⟨changed, old, rfl, rfl⟩

theorem overLine (numbered : Numbered frontier site) {line : Line}
    (found : site.relay.roster.find? session.id = some session)
    (sends : Line.Sends (site.kernel.line session) line) :
    Numbered frontier (site.overLine line) := by
  obtain ⟨new, appended, writes⟩ := sends.only
  have inBound := numbered.label_le (Roster.mem_of_find? found).1
  have calls : (site.overLine line).calls = new ++ site.calls := appended
  refine numbered.putBack new calls ?_ rfl rfl found rfl sends.id sends.label
  intro call member
  obtain ⟨bytes, result, rfl⟩ := writes call member
  refine ⟨rfl, ?_⟩
  rintro label about
  cases about
  exact inBound

theorem overCircuit (numbered : Numbered frontier site) {circuit : Circuit}
    (found : site.relay.roster.find? session.id = some session)
    (receives : Circuit.Receives (site.kernel.circuit session) circuit) :
    Numbered frontier (site.overCircuit circuit) := by
  obtain ⟨new, appended, own⟩ := receives.only
  have inBound := numbered.label_le (Roster.mem_of_find? found).1
  have calls : (site.overCircuit circuit).calls = new ++ site.calls := appended
  refine numbered.putBack new calls ?_ rfl rfl found rfl receives.id receives.label
  intro call member
  rcases own call member with ⟨size, result, rfl⟩ | ⟨packet, result, rfl⟩
  · refine ⟨rfl, ?_⟩
    rintro label about
    cases about
    exact inBound
  · exact ⟨rfl, by rintro label ⟨⟩⟩

theorem receive (numbered : Numbered frontier site) {handle : Handle}
    {received : Except Errno (Option Bytes)}
    (made : Tunnel.receive Tunnel.maxPacketSize site.kernel.tunnelHandle = (received, handle)) :
    Numbered frontier (site.overTunnel handle) := by
  obtain ⟨result, interruptions, _, _, record⟩ := Tunnel.receive_record made
  have calls : (site.overTunnel handle).calls =
      Handle.attempts (.read .tunnel Tunnel.maxPacketSize) result interruptions ++ site.calls :=
    congrArg Record.calls record
  refine numbered.subset _ calls ?_ rfl rfl rfl (List.Subset.refl _)
  intro call member
  rcases List.mem_cons.mp member with rfl | retried
  · exact ⟨rfl, by rintro label ⟨⟩⟩
  · rw [List.eq_of_mem_replicate retried]
    exact ⟨rfl, by rintro label ⟨⟩⟩

theorem failed_within {call : Call} {bound : Nat}
    (failed : ∃ errno, call = .accept (.error errno)) : call.Within bound := by
  obtain ⟨errno, rfl⟩ := failed
  exact ⟨rfl, by rintro label ⟨⟩⟩

theorem about_within {call : Call} {label : Nat} (plain : enrolledBy call = none)
    (about : call.client? = some label) : call.Within label := by
  refine ⟨plain, ?_⟩
  intro other also
  rw [about] at also
  cases also
  exact Nat.le_refl label

/-- The client that is accepted next comes before all that wait behind it. -/
theorem next_waiting (numbered : Numbered frontier site) {label : Nat} {fault : Option Errno}
    {before later : List Knock}
    (split : site.kernel.knocks = before ++ .connection label fault :: later) :
    (frontier < label ∧ label ≤ site.kernel.connected) ∧
      (∀ other ∈ later.filterMap Knock.label?, label < other) ∧
      (later.filterMap Knock.label?).Sublist site.kernel.waiting := by
  have waiting : site.kernel.waiting =
      before.filterMap Knock.label? ++ label :: later.filterMap Knock.label? := by
    simp [Kernel.waiting, split, Knock.label?]
  have growing := numbered.waiting
  rw [waiting, List.pairwise_append, List.pairwise_cons] at growing
  refine ⟨numbered.beyond label (by simp [waiting]), growing.2.1.1, ?_⟩
  rw [waiting]
  exact (List.sublist_cons_self _ _).trans (List.sublist_append_right _ _)

/-- When no session comes of it, the frontier may still move past a client that was refused. -/
theorem refuse (numbered : Numbered frontier site) {result : Except Errno (Option Nat)}
    {kernel : Kernel} (made : site.relay.channel.accept site.kernel = (result, kernel))
    (noneTaken : ∀ label, result ≠ .ok (some label)) :
    ∃ later, Numbered later { site with kernel } := by
  obtain ⟨outcome, knocks, ⟨new, notices⟩, taking, _, always⟩ :=
    Channel.accept_spec site.relay.channel site.kernel.knocks site.kernel.faults.resize
  rw [always site.kernel rfl rfl] at made
  cases made
  change Channel.Taking _ _ _ new at taking
  cases taking with
  | without _ suffix failed =>
      refine ⟨frontier, numbered.grow (Nat.le_refl frontier) numbered.reached ?_ new rfl
        (fun call member => failed_within (failed call member)) (suffix.sublist.filterMap _)
        rfl rfl fun session member => ⟨session, member, rfl, rfl⟩⟩
      intro label member
      exact (numbered.beyond label ((suffix.sublist.filterMap _).subset member)).1
  | ready => exact absurd rfl (noneTaken _)
  | @refused label errno before later failed split fails =>
      obtain ⟨⟨above, known⟩, ahead, waiting⟩ := numbered.next_waiting split
      refine ⟨label, numbered.grow (Nat.le_of_lt above) known ahead _ rfl ?_ waiting rfl rfl
        fun session member => ⟨session, member, rfl, rfl⟩⟩
      intro call member
      rcases List.mem_cons.mp member with rfl | member
      · exact about_within rfl rfl
      rcases List.mem_cons.mp member with rfl | member
      · exact about_within rfl rfl
      rcases List.mem_cons.mp member with rfl | member
      · exact about_within rfl rfl
      · exact failed_within (fails call member)

/-- A client beyond the frontier becomes a session, and the frontier moves up to it. -/
theorem extend (numbered : Numbered frontier site) {label : Nat} (above : frontier < label)
    (known : label ≤ next.kernel.connected) (ahead : ∀ other ∈ next.kernel.waiting, label < other)
    (last first : List Call)
    (calls : next.calls = last ++ (.unblock (.client label) none :: (first ++ site.calls)))
    (within : ∀ call ∈ last ++ first, call.Within label)
    (waiting : next.kernel.waiting.Sublist site.kernel.waiting)
    (connected : next.kernel.connected = site.kernel.connected)
    (roster : next.relay.roster = (site.relay.roster.insert label).2) : Numbered label next := by
  -- Of all these calls only the switch to non-blocking enrols anyone.
  have oneMore : History.enrolled next.calls = History.enrolled site.calls ++ [label] := by
    have noneLast : History.enrolled last = [] := History.enrolled_eq_nil _ fun call member =>
      (within call (List.mem_append_left _ member)).1
    have noneFirst : History.enrolled first = [] := History.enrolled_eq_nil _ fun call member =>
      (within call (List.mem_append_right _ member)).1
    rw [calls, History.enrolled_append, noneLast, List.append_nil, ← List.singleton_append,
      History.enrolled_append, History.enrolled_append, noneFirst, List.append_nil]
    rfl
  constructor
  case waiting => exact numbered.waiting.sublist waiting
  case beyond =>
    intro other member
    rw [connected]
    exact ⟨ahead other member, (numbered.beyond other (waiting.subset member)).2⟩
  case reached => exact known
  case calls =>
    intro call member other about
    rw [calls] at member
    rcases List.mem_append.mp member with inLast | member
    · exact (within call (List.mem_append_left _ inLast)).2 other about
    rcases List.mem_cons.mp member with rfl | member
    · cases about
      exact Nat.le_refl _
    rcases List.mem_append.mp member with inFirst | old
    · exact (within call (List.mem_append_right _ inFirst)).2 other about
    · exact Nat.le_trans (numbered.calls call old other about) (Nat.le_of_lt above)
  case enrolled =>
    rw [oneMore]
    apply List.pairwise_append.mpr
    refine ⟨numbered.enrolled, List.pairwise_singleton _ _, ?_⟩
    intro old member new isNew
    rw [List.mem_singleton.mp isNew]
    obtain ⟨call, inside, about⟩ := History.mem_enrolled member
    exact Nat.lt_of_le_of_lt (numbered.calls call inside old about) above
  case issued =>
    rw [oneMore, List.length_append, ← numbered.issued, roster]
    rfl
  case named =>
    intro session member
    rw [roster] at member
    rcases List.mem_append.mp member with old | isNew
    · rw [calls, ← List.cons_append, ← List.append_assoc]
      exact History.named_append _ (numbered.named session old)
    · rw [List.mem_singleton.mp isNew]
      simp [History.named, oneMore, numbered.issued]

theorem accept (numbered : Numbered frontier site) {label : Nat} {kernel : Kernel}
    (made : site.relay.channel.accept site.kernel = (.ok (some label), kernel)) :
    Numbered label (Site.enroll label { site with kernel }) := by
  obtain ⟨outcome, knocks, ⟨new, notices⟩, taking, _, always⟩ :=
    Channel.accept_spec site.relay.channel site.kernel.knocks site.kernel.faults.resize
  rw [always site.kernel rfl rfl] at made
  cases made
  change Channel.Taking _ _ _ new at taking
  cases taking with
  | without noneTaken => exact absurd rfl (noneTaken label)
  | @ready _ before later resized failed split resizes fails =>
      obtain ⟨⟨above, known⟩, ahead, waiting⟩ := numbered.next_waiting split
      refine numbered.extend above known ahead resized (.accept (.ok label) :: failed) ?_ ?_
        waiting rfl rfl
      · simp [Site.enroll, Site.calls, Kernel.note, Record.note, Record.onto]
      · intro call member
        rcases List.mem_append.mp member with isResize | member
        · obtain ⟨buffer, size, fault, rfl⟩ := resizes call isResize
          exact about_within rfl rfl
        rcases List.mem_cons.mp member with rfl | isFailed
        · exact about_within rfl rfl
        · exact failed_within (fails call isFailed)

theorem poll (numbered : Numbered frontier site) (timeout : Nat)
    (watched : List (Kernel.Descriptor × Kernel.Flags)) :
    Numbered frontier { site with kernel := (site.kernel.poll timeout watched).2 } := by
  obtain ⟨_, _, _, _, result, polled⟩ := Kernel.poll_frame timeout watched site.kernel
  rw [polled]
  refine numbered.subset [.poll timeout watched result] rfl ?_ rfl rfl rfl (List.Subset.refl _)
  intro call member
  rw [List.mem_singleton.mp member]
  exact ⟨rfl, by rintro label ⟨⟩⟩

theorem same (numbered : Numbered frontier site) (calls : next.calls = site.calls)
    (knocks : next.kernel.knocks = site.kernel.knocks)
    (connected : next.kernel.connected = site.kernel.connected)
    (roster : next.relay.roster = site.relay.roster) : Numbered frontier next := by
  refine numbered.subset [] calls (by simp) knocks connected (by rw [roster]) ?_
  rw [roster]
  exact List.Subset.refl _

theorem one (numbered : Numbered frontier site) (call : Call) (within : call.Within frontier)
    (calls : next.calls = call :: site.calls)
    (knocks : next.kernel.knocks = site.kernel.knocks)
    (connected : next.kernel.connected = site.kernel.connected)
    (issued : next.relay.roster.issued = site.relay.roster.issued)
    (sessions : next.relay.roster.sessions ⊆ site.relay.roster.sessions) :
    Numbered frontier next := by
  refine numbered.subset [call] calls ?_ knocks connected issued sessions
  intro other member
  rw [List.mem_singleton.mp member]
  exact within

theorem close (numbered : Numbered frontier site)
    (member : session ∈ site.relay.roster.sessions) :
    Call.Within frontier (.close (.client session.label)) := by
  refine ⟨rfl, ?_⟩
  rintro label about
  cases about
  exact numbered.label_le member

theorem closeChannel (numbered : Numbered frontier site) : Numbered frontier site.closeChannel := by
  obtain ⟨closed, left, new, own, _, made⟩ := site.closeChannel_spec
  rw [made]
  refine numbered.subset new.calls rfl ?_ rfl rfl rfl (List.Subset.refl _)
  intro call member
  rcases own call member with rfl | ⟨path, failure, rfl⟩
  · exact ⟨rfl, by rintro label ⟨⟩⟩
  · exact ⟨rfl, by rintro label ⟨⟩⟩

end Numbered
end Site

/-! ## Turns, failures and deeds -/

open Site (Numbered)

theorem Turn.numbered (stage next : Stage) (turn : Turn stage next)
    (numbered : ∃ frontier, Numbered frontier stage.site) :
    ∃ frontier, Numbered frontier next.site := by
  obtain ⟨frontier, numbered⟩ := numbered
  cases turn with
  | noted | hungUp | marked => exact ⟨frontier, numbered.same rfl rfl rfl rfl⟩
  | polled site => exact ⟨frontier, numbered.poll _ _⟩
  | idle received => exact ⟨frontier, numbered.receive received⟩
  | took received => exact ⟨frontier, (numbered.receive received).same rfl rfl rfl rfl⟩
  | dropped received => exact ⟨frontier, (numbered.receive received).same rfl rfl rfl rfl⟩
  | offered found sent => exact ⟨frontier, numbered.overLine found (.of_send sent)⟩
  | flushed found flush => exact ⟨frontier, numbered.overLine found (.of_flush flush)⟩
  | broke found flush => exact ⟨frontier, numbered.overLine found (.of_flush flush)⟩
  | read found served => exact ⟨frontier, numbered.overCircuit found (.of_read served)⟩
  | @left site session parting leaving found =>
      have member := (Roster.mem_of_find? found).1
      exact ⟨frontier, numbered.one _ (numbered.close member) rfl rfl rfl rfl
        (Roster.remove_sublist _ _).subset⟩
  | @accepted site label kernel taken => exact ⟨label, numbered.accept taken⟩
  | refused taken noneTaken => exact numbered.refuse taken noneTaken
  | closedTunnel site =>
      refine ⟨frontier, ?_⟩
      unfold Site.closeTunnel
      split
      · exact numbered
      · exact numbered.one (.close .tunnel) ⟨rfl, by rintro label ⟨⟩⟩ rfl rfl rfl rfl
          (List.Subset.refl _)
  | @dismissed site session others sessions =>
      have subset : (site.dismiss session others).relay.roster.sessions ⊆
          site.relay.roster.sessions := by
        rw [sessions]
        exact List.subset_cons_self session others
      refine ⟨frontier, numbered.one (.close (.client session.label)) ?_ rfl rfl rfl rfl subset⟩
      exact numbered.close (by simp [sessions])
  | closedChannel site => exact ⟨frontier, numbered.closeChannel⟩

theorem Fatal.numbered (site : Site) (failure : Failure) (after : Site)
    (fatal : Fatal site failure after) (numbered : ∃ frontier, Numbered frontier site) :
    ∃ frontier, Numbered frontier after := by
  obtain ⟨frontier, numbered⟩ := numbered
  refine ⟨frontier, ?_⟩
  cases fatal with
  | poll failed serious =>
      have polled := numbered.poll site.relay.pollTimeout ((Site.watched site.relay).map (·.2))
      rw [failed] at polled
      exact polled
  | receive failed => exact numbered.receive failed
  | transmit found failed => exact numbered.overCircuit found (.of_read failed)

/-! ## The record only grows -/

theorem Site.receive_grows {site : Site} {size : Nat} {handle : Handle}
    {received : Except Errno (Option Bytes)}
    (made : Tunnel.receive size site.kernel.tunnelHandle = (received, handle)) :
    site.calls <:+ (site.overTunnel handle).calls := by
  obtain ⟨_, _, _, _, record⟩ := Tunnel.receive_record made
  exact ⟨_, (congrArg Record.calls record).symm⟩

theorem Line.Sends.grows {before after : Line} (sends : Line.Sends before after) :
    before.calls <:+ after.calls := by
  obtain ⟨new, appended, _⟩ := sends.only
  exact ⟨new, appended.symm⟩

theorem Circuit.Receives.grows {before after : Circuit} (receives : Circuit.Receives before after) :
    before.record.calls <:+ after.record.calls := by
  obtain ⟨new, appended, _⟩ := receives.only
  exact ⟨new, appended.symm⟩

theorem Site.poll_grows (site : Site) (timeout : Nat)
    (watched : List (Kernel.Descriptor × Kernel.Flags)) :
    site.calls <:+ (site.kernel.poll timeout watched).2.record.calls := by
  obtain ⟨_, _, _, _, result, polled⟩ := Kernel.poll_frame timeout watched site.kernel
  rw [polled]
  exact List.suffix_cons _ _

theorem Site.accept_grows {site : Site} {result : Except Errno (Option Nat)} {kernel : Kernel}
    (made : site.relay.channel.accept site.kernel = (result, kernel)) :
    site.calls <:+ kernel.record.calls := by
  obtain ⟨_, _, new, _, _, outcome⟩ :=
    Channel.accept_spec site.relay.channel site.kernel.knocks site.kernel.faults.resize
  rw [outcome site.kernel rfl rfl] at made
  cases made
  exact ⟨new.calls, rfl⟩

theorem Turn.grows (stage next : Stage) (turn : Turn stage next) :
    stage.site.calls <:+ next.site.calls := by
  cases turn with
  | noted | hungUp | marked => exact List.suffix_rfl
  | polled site => exact site.poll_grows _ _
  | idle received => exact Site.receive_grows received
  | took received => exact Site.receive_grows received
  | dropped received => exact Site.receive_grows received
  | offered _ sent => exact (Line.Sends.of_send sent).grows
  | flushed _ flush => exact (Line.Sends.of_flush flush).grows
  | broke _ flush => exact (Line.Sends.of_flush flush).grows
  | read _ served => exact (Circuit.Receives.of_read served).grows
  | left found => exact List.suffix_cons _ _
  | accepted taken =>
      have grown := Site.accept_grows taken
      exact grown
  | refused taken noneTaken => exact Site.accept_grows taken
  | closedTunnel site =>
      unfold Site.closeTunnel
      split
      · exact List.suffix_rfl
      · exact List.suffix_cons _ _
  | dismissed sessions => exact List.suffix_cons _ _
  | closedChannel site =>
      obtain ⟨closed, left, new, _, _, made⟩ := site.closeChannel_spec
      rw [made]
      exact ⟨new.calls, rfl⟩

theorem Fatal.grows (site : Site) (failure : Failure) (after : Site)
    (fatal : Fatal site failure after) : site.calls <:+ after.calls := by
  cases fatal with
  | poll failed serious =>
      have polled := site.poll_grows site.relay.pollTimeout ((Site.watched site.relay).map (·.2))
      rw [failed] at polled
      exact polled
  | receive failed => exact Site.receive_grows failed
  | transmit _ failed => exact (Circuit.Receives.of_read failed).grows

theorem Path.grows {stage last : Stage} {result : Except Failure Unit}
    (path : Path stage result last) : stage.site.calls <:+ last.site.calls := by
  induction path with
  | done => exact List.suffix_rfl
  | turn step _ ih => exact (step.grows _ _).trans ih
  | failed fatal => exact fatal.grows _ _ _

end PacketRelay
