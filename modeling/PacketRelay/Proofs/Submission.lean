import PacketRelay.Proofs.Forwarding
import PacketRelay.Proofs.Sound

/-!
What the tunnel is offered for each client. Main statement: while no pass fails,
the packets offered for a client are those of the complete frames it has sent,
each in the pass that read its last byte; and a client whose frames hold a
violation has been parted from for it.
-/

namespace PacketRelay

open Kernel (Call Descriptor Deed)
open PacketRelay.Frame (Violation parse)
open History (got offered server named Plain)
open Site (Numbered)

/-! ## Partings for other reasons -/

namespace Line

theorem flush_error {line after : Line} {parting : Parting}
    (failed : line.flush = (.error parting, after)) : ∃ errno, parting = .io errno := by
  have result := (flush_drained line).1
  rw [failed] at result
  cases drained : line.drainPending.1 with
  | error errno =>
      rw [drained] at result
      exact ⟨errno, Except.error.inj result⟩
  | ok _ =>
      rw [drained] at result
      cases result

theorem offer_closed {frame : Bytes} {line after : Line} {parting : Parting}
    (failed : line.offer frame = (.closed parting, after)) : ∃ errno, parting = .io errno := by
  unfold offer at failed
  split at failed
  · dsimp only at failed
    split at failed
    · cases failed
    · split at failed <;> cases failed
  · next errno handle made =>
      dsimp only at failed
      split at failed
      · cases failed
      · cases failed
        exact ⟨errno, rfl⟩

/-- A session that ends while a frame is sent ends for its stream's failure. -/
theorem send_closed {frame : Bytes} {line after : Line} {parting : Parting}
    (failed : line.send frame = (.closed parting, after)) : ∃ errno, parting = .io errno := by
  unfold send at failed
  split at failed
  · cases failed
  · split at failed
    · exact offer_closed failed
    · split at failed
      · next parting later made =>
          cases failed
          exact flush_error made
      · split at failed
        · cases failed
        · exact offer_closed failed

end Line

namespace History

theorem Plain.write {client : Nat} {bytes : Bytes} {result : Except Errno Nat} :
    Plain (.write (.client client) bytes result) := ⟨fun _ => rfl, fun _ _ => rfl⟩

theorem Plain.readTunnel {size : Nat} {result : Except Errno Bytes} :
    Plain (.read .tunnel size result) := ⟨fun _ => rfl, fun _ _ => rfl⟩

theorem Plain.close {descriptor : Descriptor} : Plain (.close descriptor) :=
  ⟨fun _ => rfl, fun _ _ => rfl⟩

theorem Plain.accepting {label : Nat} {call : Call} (accepting : Channel.Accepting label call) :
    Plain call := by
  cases accepting <;> exact ⟨fun _ => rfl, fun _ _ => rfl⟩

end History

theorem Disposition.mem_partings {disposition : Disposition} {id other : Nat} {parting : Parting} :
    (id, parting) ∈ disposition.partings other ↔ id = other ∧ disposition = .closed parting := by
  cases disposition with
  | unfinished | idle => simp [partings]
  | closed reason => simp [partings, eq_comm]

namespace Stage

/-- A violation has been given as the reason of a parting, or is about to be. -/
def Reported (stage : Stage) (id : Nat) (violation : Violation) : Prop :=
  (id, .protocol violation) ∈ stage.leaving ∨
    .parted id (.protocol violation) ∈ stage.site.kernel.record.notices

structure Submits (stage : Stage) : Prop where
  offered : ∀ label, offered label stage.site.calls = (parse (got label stage.site.calls)).packets
  decoding : ∀ session ∈ stage.site.relay.roster.sessions,
    (∃ violation, (session.id, .protocol violation) ∈ stage.leaving) ∨
      ∃ packets, (stage.site.kernel.circuit session).Keeping packets []
  violations : ∀ label violation,
    (parse (got label stage.site.calls)).violation = some violation →
      ∃ id, named stage.site.calls id = some label ∧ stage.Reported id violation
  reported : ∀ id violation, stage.Reported id violation →
    ∃ label, named stage.site.calls id = some label ∧
      (parse (got label stage.site.calls)).violation = some violation
  closed : ∀ id parting, .parted id parting ∈ stage.site.kernel.record.notices →
    ∃ label, named stage.site.calls id = some label ∧
      .close (.client label) ∈ stage.site.calls
  closing : ∀ label moment, .close (.client label) :: moment <:+ stage.site.calls →
    History.offered label moment = (parse (got label moment)).packets

namespace Submits

variable {stage next : Stage}

/-- Plain calls change neither side of the equation, so it holds among them as well. -/
theorem closing_plain (submits : stage.Submits) {new moment : List Call} {label : Nat}
    (plain : ∀ call ∈ new, Plain call)
    (suffix : .close (.client label) :: moment <:+ new ++ stage.site.calls) :
    History.offered label moment = (parse (got label moment)).packets := by
  have before : stage.site.calls <:+ new ++ stage.site.calls := List.suffix_append _ _
  rcases List.suffix_or_suffix_of_suffix suffix before with sooner | later
  · exact submits.closing label moment sooner
  rcases List.suffix_cons_iff.mp later with same | ⟨extra, rfl⟩
  · exact submits.closing label moment (same ▸ List.suffix_rfl)
  · have inside : ∀ call ∈ extra, Plain call := by
      obtain ⟨rest, split⟩ := suffix
      intro call member
      apply plain
      rw [← List.cons_append, ← List.append_assoc] at split
      rw [← List.append_cancel_right split]
      exact List.mem_append_right rest (List.mem_cons_of_mem _ member)
    rw [History.offered_plain inside, History.got_plain inside]
    exact submits.offered label

theorem aside (submits : stage.Submits) (new : List Call)
    (calls : next.site.calls = new ++ stage.site.calls) (plain : ∀ call ∈ new, Plain call)
    (reports : ∀ id violation, next.Reported id violation ↔ stage.Reported id violation)
    (closed : ∀ id parting, .parted id parting ∈ next.site.kernel.record.notices →
      .parted id parting ∈ stage.site.kernel.record.notices ∨
        ∃ label, named next.site.calls id = some label ∧
          .close (.client label) ∈ next.site.calls)
    (sessions : ∀ session ∈ next.site.relay.roster.sessions,
      ∃ old ∈ stage.site.relay.roster.sessions,
        (session.id = old.id ∧ session.label = old.label ∧ session.decoder = old.decoder ∧
          session.tally.received = old.tally.received) ∧
        ∀ violation, (old.id, .protocol violation) ∈ stage.leaving →
          (session.id, .protocol violation) ∈ next.leaving) :
    next.Submits := by
  have sameGot (label : Nat) : got label next.site.calls = got label stage.site.calls := by
    rw [calls, History.got_plain plain]
  have sameOffered (label : Nat) :
      History.offered label next.site.calls = History.offered label stage.site.calls := by
    rw [calls, History.offered_plain plain]
  have stillNamed {id label : Nat} (name : named stage.site.calls id = some label) :
      named next.site.calls id = some label := by
    rw [calls]
    exact History.named_append new name
  constructor
  case offered =>
    intro label
    rw [sameOffered, sameGot]
    exact submits.offered label
  case decoding =>
    intro session member
    obtain ⟨old, inside, ⟨id, label, decoder, received⟩, leaving⟩ := sessions session member
    -- The decoder is the same and no byte has come, so what is to be decoded is the same.
    rcases submits.decoding old inside with ⟨violation, leaves⟩ | ⟨packets, keeping⟩
    · exact .inl ⟨violation, leaving violation leaves⟩
    · refine .inr ⟨packets, ?_, keeping.legal, ?_, ?_, ?_⟩
      · change got session.label next.site.calls = _ ++ (session.decoder.held ++ [])
        rw [sameGot, label, decoder]
        exact keeping.got
      · change session.decoder.Waiting
        rw [decoder]
        exact keeping.waiting
      · change History.offered session.label next.site.calls = packets
        rw [sameOffered, label]
        exact keeping.offered
      · exact received.trans keeping.received
  case violations =>
    intro label violation met
    rw [sameGot] at met
    obtain ⟨id, name, report⟩ := submits.violations label violation met
    exact ⟨id, stillNamed name, (reports id violation).mpr report⟩
  case reported =>
    intro id violation report
    obtain ⟨label, name, met⟩ := submits.reported id violation ((reports id violation).mp report)
    rw [← sameGot] at met
    exact ⟨label, stillNamed name, met⟩
  case closed =>
    intro id parting member
    -- Whoever was parted from before has its close further back in the same record.
    rcases closed id parting member with old | newClose
    · obtain ⟨label, name, close⟩ := submits.closed id parting old
      refine ⟨label, stillNamed name, ?_⟩
      rw [calls]
      exact List.mem_append_right new close
    · exact newClose
  case closing =>
    intro label moment suffix
    rw [calls] at suffix
    exact submits.closing_plain plain suffix

theorem quiet (submits : stage.Submits) (new : List Call)
    (calls : next.site.calls = new ++ stage.site.calls) (plain : ∀ call ∈ new, Plain call)
    (news : List Log.Notice)
    (notices : next.site.kernel.record.notices = news ++ stage.site.kernel.record.notices)
    (plainNews : ∀ notice ∈ news, notice.isParting = false)
    (leaving : ∀ id violation, (id, .protocol violation) ∈ next.leaving ↔
      (id, .protocol violation) ∈ stage.leaving)
    (sessions : ∀ session ∈ next.site.relay.roster.sessions,
      ∃ old ∈ stage.site.relay.roster.sessions,
        session.id = old.id ∧ session.label = old.label ∧ session.decoder = old.decoder ∧
          session.tally.received = old.tally.received) :
    next.Submits := by
  have sameParted (id : Nat) (parting : Parting) :
      .parted id parting ∈ next.site.kernel.record.notices ↔
        .parted id parting ∈ stage.site.kernel.record.notices := by
    rw [notices, List.mem_append]
    constructor
    · rintro (new | old)
      · cases plainNews _ new
      · exact old
    · exact .inr
  refine submits.aside new calls plain ?_ ?_ ?_
  · intro id violation
    simp only [Reported, leaving, sameParted]
  · intro id parting member
    exact .inl ((sameParted id parting).mp member)
  · intro session member
    obtain ⟨old, inside, same⟩ := sessions session member
    refine ⟨old, inside, same, ?_⟩
    intro violation leaves
    rw [same.1]
    exact (leaving old.id violation).mpr leaves

variable {site : Site} {session : Session} {frontier : Nat}

theorem rest_keeping (submits : Submits (.rest site))
    (member : session ∈ site.relay.roster.sessions) :
    ∃ packets, (site.kernel.circuit session).Keeping packets [] := by
  rcases submits.decoding session member with ⟨violation, leaves⟩ | keeping
  · cases leaves
  · exact keeping

/-- What the records show of a client that has been read from: its frames have been
submitted as far as they have come, and nothing has been done about anyone else. -/
structure Reads (site : Site) (session : Session) (disposition : Disposition) (circuit : Circuit) :
    Prop where
  id : circuit.session.id = session.id
  unbroken : (parse (got session.label site.calls)).violation = none
  grows : ∃ new, circuit.calls = new ++ site.calls ∧ ∀ label, .close (.client label) ∉ new
  parted : ∀ id parting, .parted id parting ∈ circuit.record.notices ↔
    .parted id parting ∈ site.kernel.record.notices
  others : ∀ label ≠ session.label, got label circuit.calls = got label site.calls ∧
    History.offered label circuit.calls = History.offered label site.calls
  offered : History.offered session.label circuit.calls =
    (parse (got session.label circuit.calls)).packets
  violation : ∀ violation, (parse (got session.label circuit.calls)).violation = some violation ↔
    disposition = .closed (.protocol violation)
  decoding : (∃ violation, disposition = .closed (.protocol violation)) ∨
    ∃ packets, circuit.Keeping packets []

theorem reads (submits : Submits (.rest site)) {name : String} {disposition : Disposition}
    {circuit : Circuit} (member : session ∈ site.relay.roster.sessions)
    (served : (site.kernel.circuit session).read name Tunnel.maxPacketSize
      site.relay.readBudget = (.ok disposition, circuit)) :
    Reads site session disposition circuit := by
  obtain ⟨packets, before⟩ := submits.rest_keeping member
  have serves := Circuit.read_serves name Tunnel.maxPacketSize site.relay.readBudget
    (site.kernel.circuit session)
  have receives := Circuit.Receives.of_read served
  have result := Circuit.read_keeping name _ _ _ before served
  rw [served] at serves
  have sameLabel : circuit.session.label = session.label := serves.label
  constructor
  case id => exact receives.id
  case unbroken =>
    have parsed := before.parsed
    exact congrArg Frame.Parsed.violation parsed
  case grows =>
    obtain ⟨new, appended, own⟩ := receives.only
    refine ⟨new, appended, fun label inside => ?_⟩
    rcases own _ inside with ⟨size, result, made⟩ | ⟨packet, result, made⟩ <;> cases made
  case parted =>
    intro id parting
    obtain ⟨news, notices, plain⟩ := receives.notices
    rw [notices, List.mem_append]
    constructor
    · rintro (new | old)
      · cases plain _ new
      · exact old
    · exact .inr
  case others => exact fun label apart => ⟨serves.got label apart, serves.offered label apart⟩
  case offered =>
    rw [← sameLabel]
    rcases result with ⟨later, keeping, _⟩ | ⟨violation, _, broken⟩
    · rw [keeping.parsed]
      exact keeping.offered
    · exact broken.offered
  case violation =>
    intro violation
    rw [← sameLabel]
    rcases result with ⟨later, keeping, otherReason⟩ | ⟨ended, rfl, broken⟩
    · rw [keeping.parsed]
      constructor
      · intro met
        cases met
      · exact fun closed => absurd closed (otherReason violation)
    · simp [broken.violation]
  case decoding =>
    rcases result with ⟨later, keeping, _⟩ | ⟨violation, closed, _⟩
    · exact .inr ⟨later, keeping⟩
    · exact .inl ⟨violation, closed⟩

theorem Reads.named {disposition : Disposition} {circuit : Circuit} {id label : Nat}
    (reads : Reads site session disposition circuit)
    (name : named site.calls id = some label) : History.named circuit.calls id = some label := by
  obtain ⟨new, appended, _⟩ := reads.grows
  rw [appended]
  exact History.named_append new name

theorem read (sound : Sound (.rest site)) (submits : Submits (.rest site)) {name : String}
    {disposition : Disposition} {circuit : Circuit}
    (found : site.relay.roster.find? session.id = some session)
    (served : (site.kernel.circuit session).read name Tunnel.maxPacketSize
      site.relay.readBudget = (.ok disposition, circuit)) :
    Submits ⟨site.overCircuit circuit, [], disposition.partings session.id⟩ := by
  obtain ⟨frontier, numbered⟩ := sound.numbered
  have member := (Roster.mem_of_find? found).1
  have reads := submits.reads member served
  have calls : (site.overCircuit circuit).calls = circuit.calls := rfl
  constructor
  case offered =>
    intro label
    rw [calls]
    by_cases own : label = session.label
    · rw [own]
      exact reads.offered
    · obtain ⟨sameGot, sameOffered⟩ := reads.others label own
      rw [sameGot, sameOffered]
      exact submits.offered label
  case decoding =>
    intro other isOther
    rcases Roster.mem_update isOther with rfl | ⟨old, different⟩
    · rcases reads.decoding with ⟨violation, closed⟩ | ⟨packets, keeping⟩
      · exact .inl ⟨violation, Disposition.mem_partings.mpr ⟨reads.id, closed⟩⟩
      · exact .inr ⟨packets, keeping.got, keeping.legal, keeping.waiting, keeping.offered,
          keeping.received⟩
    · rw [reads.id] at different
      have apart : other.label ≠ session.label := fun same =>
        different (numbered.id_of_label old member same)
      obtain ⟨packets, keeping⟩ := submits.rest_keeping old
      obtain ⟨sameGot, sameOffered⟩ := reads.others other.label apart
      exact .inr ⟨packets, sameGot.trans keeping.got, keeping.legal, keeping.waiting,
        sameOffered.trans keeping.offered, keeping.received⟩
  case violations =>
    intro label violation met
    by_cases own : label = session.label
    · rw [own] at met ⊢
      have closed := (reads.violation violation).mp met
      exact ⟨session.id, reads.named (numbered.named session member),
        .inl (Disposition.mem_partings.mpr ⟨rfl, closed⟩)⟩
    · rw [calls, (reads.others label own).1] at met
      obtain ⟨id, name, leaves | parted⟩ := submits.violations label violation met
      · cases leaves
      · exact ⟨id, reads.named name, .inr ((reads.parted id _).mpr parted)⟩
  case reported =>
    rintro id violation (leaves | parted)
    · obtain ⟨rfl, closed⟩ := Disposition.mem_partings.mp leaves
      exact ⟨session.label, reads.named (numbered.named session member),
        (reads.violation violation).mpr closed⟩
    · obtain ⟨label, name, met⟩ :=
        submits.reported id violation (.inr ((reads.parted id _).mp parted))
      -- Who was parted from for a violation cannot be the client that is still served.
      have apart : label ≠ session.label := by
        rintro rfl
        rw [reads.unbroken] at met
        cases met
      rw [← (reads.others label apart).1] at met
      exact ⟨label, reads.named name, met⟩
  case closed =>
    intro id parting parted
    obtain ⟨new, appended, _⟩ := reads.grows
    obtain ⟨label, name, close⟩ := submits.closed id parting ((reads.parted id _).mp parted)
    refine ⟨label, reads.named name, ?_⟩
    rw [calls, appended]
    exact List.mem_append_right new close
  case closing =>
    intro label moment suffix
    obtain ⟨new, appended, unclosed⟩ := reads.grows
    rw [calls, appended] at suffix
    exact submits.closing label moment (History.suffix_of_absent (unclosed label) suffix)

theorem still {offers later : List (Nat × Bytes)} {leaving : List (Nat × Parting)} {after : Site}
    (submits : Submits ⟨site, offers, leaving⟩) (new : List Call)
    (calls : after.calls = new ++ site.calls) (plain : ∀ call ∈ new, Plain call)
    (news : List Log.Notice) (notices : after.kernel.record.notices =
      news ++ site.kernel.record.notices) (plainNews : ∀ notice ∈ news, notice.isParting = false)
    (sessions : after.relay.roster.sessions ⊆ site.relay.roster.sessions) :
    Submits ⟨after, later, leaving⟩ :=
  submits.quiet new calls plain news notices plainNews (fun _ _ => Iff.rfl) fun session member =>
    ⟨session, sessions member, rfl, rfl, rfl, rfl⟩

/-- Writing to a client submits nothing, whether it goes well or not. -/
theorem overLine {offers later : List (Nat × Bytes)} {leaving parted : List (Nat × Parting)}
    {line : Line} (submits : Submits ⟨site, offers, leaving⟩)
    (found : site.relay.roster.find? session.id = some session)
    (sends : Line.Sends (site.kernel.line session) line)
    (otherReason : ∀ id violation, (id, .protocol violation) ∉ parted) :
    Submits ⟨site.overLine line, later, leaving ++ parted⟩ := by
  obtain ⟨new, appended, writes⟩ := sends.only
  obtain ⟨news, notices, plain⟩ := sends.notices
  obtain ⟨_, _, _, _, changed⟩ := sends.session
  refine submits.quiet new appended ?_ news notices plain ?_ ?_
  · intro call member
    obtain ⟨bytes, result, rfl⟩ := writes call member
    exact .write
  · intro id violation
    rw [List.mem_append]
    constructor
    · rintro (old | new)
      · exact old
      · exact absurd new (otherReason id violation)
    · exact .inl
  · intro other member
    rcases Roster.mem_update member with rfl | ⟨old, _⟩
    · refine ⟨session, (Roster.mem_of_find? found).1, ?_⟩
      rw [changed]
      exact ⟨rfl, rfl, rfl, rfl⟩
    · exact ⟨other, old, rfl, rfl, rfl, rfl⟩

theorem handed {packet : Bytes} {offers : List (Nat × Bytes)} {leaving : List (Nat × Parting)}
    {sending : Sending} {line : Line}
    (submits : Submits ⟨site, (session.id, packet) :: offers, leaving⟩)
    (found : site.relay.roster.find? session.id = some session)
    (sent : (site.kernel.line session).send (Frame.wrap packet) = (sending, line)) :
    Submits ⟨site.overLine line, offers, leaving ++ sending.partings session.id⟩ := by
  refine submits.overLine found (.of_send sent) ?_
  intro id violation parted
  cases sending with
  | sent | partly | dropped => cases parted
  | closed parting =>
      obtain ⟨errno, rfl⟩ := Line.send_closed sent
      cases List.mem_singleton.mp parted

theorem flushed {line : Line} {result : Except Parting Unit} {parted : List (Nat × Parting)}
    (submits : Submits (.rest site)) (found : site.relay.roster.find? session.id = some session)
    (flush : (site.kernel.line session).flush = (result, line))
    (otherReason : ∀ id violation, (id, .protocol violation) ∉ parted) :
    Submits ⟨site.overLine line, [], parted⟩ :=
  submits.overLine found (.of_flush flush) otherReason

theorem polled (submits : Submits (.rest site)) : Submits (.rest { site with
    kernel := (site.kernel.poll site.relay.pollTimeout
      ((Site.watched site.relay).map (·.2))).2 }) := by
  obtain ⟨_, _, _, _, result, polled⟩ := Kernel.poll_frame site.relay.pollTimeout
    ((Site.watched site.relay).map (·.2)) site.kernel
  exact submits.still [.poll _ _ result] (congrArg (·.record.calls) polled)
    (List.forall_mem_singleton.mpr ⟨fun _ => rfl, fun _ _ => rfl⟩) []
    (congrArg (·.record.notices) polled) (by simp) (List.Subset.refl _)

theorem closeTunnel (submits : Submits (.rest site)) : Submits (.rest site.closeTunnel) := by
  unfold Site.closeTunnel
  split
  · exact submits
  · next name isOpen =>
      exact submits.still [.close .tunnel] rfl (List.forall_mem_singleton.mpr .close)
        [.closing name] rfl (by simp [Log.Notice.isParting]) (List.Subset.refl _)

theorem dismiss {others : List Session} (submits : Submits (.rest site))
    (sessions : site.relay.roster.sessions = session :: others) :
    Submits (.rest (site.dismiss session others)) := by
  refine submits.still [.close (.client session.label)] rfl
    (List.forall_mem_singleton.mpr .close) [] rfl (by simp) ?_
  rw [sessions]
  exact List.subset_cons_self session others

theorem closeChannel (submits : Submits (.rest site)) : Submits (.rest site.closeChannel) := by
  obtain ⟨closed, left, new, own, plain, made⟩ := site.closeChannel_spec
  rw [made]
  refine submits.still new.calls rfl ?_ new.notices rfl plain (List.Subset.refl _)
  intro call member
  rcases own call member with rfl | ⟨path, failure, rfl⟩
  · exact .close
  · exact ⟨fun _ => rfl, fun _ _ => rfl⟩

theorem receive (submits : Submits (.rest site))
    {handle : Kernel.Handle} {received : Except Errno (Option Bytes)}
    (made : Tunnel.receive Tunnel.maxPacketSize site.kernel.tunnelHandle = (received, handle)) :
    Submits (.rest (site.overTunnel handle)) := by
  obtain ⟨result, interruptions, _, _, record⟩ := Tunnel.receive_record made
  have notices : (site.overTunnel handle).kernel.record.notices =
      [] ++ site.kernel.record.notices := by
    change handle.record.notices = _
    rw [record]
    rfl
  refine submits.still _ (congrArg Record.calls record) ?_ [] notices (by simp)
    (List.Subset.refl _)
  intro call member
  rcases List.mem_cons.mp member with rfl | retried
  · exact .readTunnel
  · rw [List.eq_of_mem_replicate retried]
    exact .readTunnel

theorem left {parting : Parting} {leaving : List (Nat × Parting)}
    (sound : Sound ⟨site, [], (session.id, parting) :: leaving⟩)
    (submits : Submits ⟨site, [], (session.id, parting) :: leaving⟩)
    (found : site.relay.roster.find? session.id = some session) :
    Submits ⟨site.leave session parting, [], leaving⟩ := by
  obtain ⟨frontier, numbered⟩ := sound.numbered
  refine submits.aside [.close (.client session.label)] rfl ?_ ?_ ?_ ?_
  · intro call member
    rw [List.mem_singleton.mp member]
    exact .close
  · intro id violation
    change _ ∨ _ ∈ Log.Notice.parted session.id parting :: site.kernel.record.notices ↔
      _ ∈ (session.id, parting) :: leaving ∨ _
    -- The violation moves from those to be reported to those that have been.
    rw [List.mem_cons, List.mem_cons, Log.Notice.parted.injEq, Prod.mk.injEq]
    constructor
    · rintro (leaves | now | parted)
      · exact .inl (.inr leaves)
      · exact .inl (.inl now)
      · exact .inr parted
    · rintro ((now | leaves) | parted)
      · exact .inr (.inl now)
      · exact .inl leaves
      · exact .inr (.inr parted)
  · intro id reason parted
    rcases List.mem_cons.mp parted with now | old
    · cases now
      refine .inr ⟨session.label, ?_, List.mem_cons_self⟩
      exact History.named_append [.close (.client session.label)]
        (numbered.named session (Roster.mem_of_find? found).1)
    · exact .inl old
  · intro other member
    obtain ⟨old, different⟩ := (Roster.mem_remove sound.ordered).mp member
    refine ⟨other, old, ⟨rfl, rfl, rfl, rfl⟩, ?_⟩
    intro violation leaves
    rcases List.mem_cons.mp leaves with now | later
    · exact absurd (Prod.mk.inj now).1 different
    · exact later

/-- Accepting submits nothing; what is accepted has sent nothing yet. -/
theorem accept (numbered : Numbered frontier site) (submits : Submits (.rest site))
    {result : Except Errno (Option Nat)} {kernel : Kernel}
    (made : site.relay.channel.accept site.kernel = (result, kernel)) :
    Submits (.rest { site with kernel }) ∧ ∀ label, result = .ok (some label) →
      got label kernel.record.calls = [] ∧ History.offered label kernel.record.calls = [] := by
  obtain ⟨outcome, knocks, ⟨new, news⟩, taking, plain, always⟩ :=
    Channel.accept_spec site.relay.channel site.kernel.knocks site.kernel.faults.resize
  rw [always site.kernel rfl rfl] at made
  obtain ⟨rfl, rfl⟩ := Prod.mk.inj made
  change Channel.Taking _ _ _ new at taking
  obtain ⟨_, accepting⟩ := taking.accepting
  have plainCalls : ∀ call ∈ new, Plain call := fun call member =>
    .accepting (accepting call member)
  constructor
  · exact submits.still new rfl plainCalls news rfl plain (List.Subset.refl _)
  · rintro label rfl
    have untouched : ∀ call ∈ site.calls, call.client? ≠ some label := by
      cases taking with
      | without noneTaken => exact absurd rfl (noneTaken label)
      | ready before split =>
          obtain ⟨⟨above, _⟩, _, _⟩ := numbered.next_waiting split
          exact numbered.untouched above
    constructor
    · exact (History.got_plain plainCalls).trans (History.got_eq_nil untouched)
    · exact (History.offered_plain plainCalls).trans (History.offered_eq_nil untouched)

theorem enroll {label : Nat} (submits : Submits (.rest site))
    (untouched : got label site.calls = []) (unsubmitted : History.offered label site.calls = []) :
    Submits (.rest (site.enroll label)) := by
  have sameParted (id : Nat) (parting : Parting) :
      .parted id parting ∈ (site.enroll label).kernel.record.notices ↔
        .parted id parting ∈ site.kernel.record.notices := by
    change _ ∈ Log.Notice.connected _ _ :: site.kernel.record.notices ↔ _
    simp
  constructor
  case offered => exact submits.offered
  case decoding =>
    intro session member
    rcases List.mem_append.mp member with old | new
    · obtain ⟨packets, keeping⟩ := submits.rest_keeping old
      exact .inr ⟨packets, keeping.got, keeping.legal, keeping.waiting, keeping.offered,
        keeping.received⟩
    · rw [List.mem_singleton.mp new]
      exact .inr ⟨[], untouched, by simp, Frame.Decoder.fresh_waiting, unsubmitted, rfl⟩
  case violations =>
    intro other violation met
    obtain ⟨id, name, leaves | parted⟩ := submits.violations other violation met
    · cases leaves
    · exact ⟨id, name, .inr ((sameParted id _).mpr parted)⟩
  case reported =>
    rintro id violation (leaves | parted)
    · cases leaves
    · exact submits.reported id violation (.inr ((sameParted id _).mp parted))
  case closed =>
    intro id parting parted
    exact submits.closed id parting ((sameParted id parting).mp parted)
  case closing => exact submits.closing

end Submits
end Stage

open Stage (Submits)

theorem Turn.submits (stage next : Stage) (turn : Turn stage next) (sound : stage.Sound)
    (submits : stage.Submits) : next.Submits := by
  cases turn with
  | noted stage notice plain =>
      exact submits.still [] rfl (by simp) [notice] rfl (by simpa using plain)
        (List.Subset.refl _)
  | polled site => exact submits.polled
  | idle received => exact submits.receive received
  | took received legal =>
      exact (submits.receive received).still [] rfl (by simp) [] rfl (by simp)
        (List.Subset.refl _)
  | dropped received illegal =>
      exact (submits.receive received).still [] rfl (by simp) [] rfl (by simp)
        (List.Subset.refl _)
  | offered found sent => exact submits.handed found sent
  | flushed found flush => exact submits.flushed found flush (by simp)
  | @broke site session line parting found flush =>
      refine submits.flushed found flush ?_
      intro id violation parted
      obtain ⟨errno, rfl⟩ := Line.flush_error flush
      cases List.mem_singleton.mp parted
  | read found served => exact submits.read sound found served
  | @hungUp site session found =>
      refine submits.quiet [] rfl (by simp) [] rfl (by simp) ?_ fun session member =>
        ⟨session, member, rfl, rfl, rfl, rfl⟩
      intro id violation
      constructor
      · intro leaves
        cases List.mem_singleton.mp leaves
      · rintro ⟨⟩
  | left found => exact submits.left sound found
  | accepted taken =>
      obtain ⟨frontier, numbered⟩ := sound.numbered
      obtain ⟨accepted, fresh⟩ := Submits.accept numbered submits taken
      obtain ⟨untouched, unsubmitted⟩ := fresh _ rfl
      exact accepted.enroll untouched unsubmitted
  | refused taken noneTaken =>
      obtain ⟨frontier, numbered⟩ := sound.numbered
      exact (Submits.accept numbered submits taken).1
  | closedTunnel site => exact submits.closeTunnel
  | dismissed sessions => exact submits.dismiss sessions
  | closedChannel site => exact submits.closeChannel
  | marked site running =>
      exact submits.still [] rfl (by simp) [] rfl (by simp) (List.Subset.refl _)

theorem submits_kept : Site.Kept Submits where
  turn := Turn.submits
  deed site deed _ submits := by
    have same := Kernel.undergo_record deed site.kernel
    exact submits.still [] (congrArg Record.calls same) (by simp) []
      (congrArg Record.notices same) (by simp) (List.Subset.refl _)

theorem Site.Opened.submits {site : Site} (opened : site.Opened) : Submits (.rest site) := by
  have untouched (label : Nat) : ∀ call ∈ site.calls, call.client? ≠ some label := by
    intro call member
    rw [(opened.silent member).2]
    rintro ⟨⟩
  have unparted {id : Nat} {parting : Parting} :
      .parted id parting ∉ site.kernel.record.notices := fun member => by
    cases opened.notices _ member
  constructor
  case offered =>
    intro label
    rw [History.offered_eq_nil (untouched label), History.got_eq_nil (untouched label)]
    simp [parse, Frame.headerLength]
  case decoding => simp [opened.roster]
  case violations =>
    intro label violation met
    rw [History.got_eq_nil (untouched label)] at met
    simp [parse, Frame.headerLength] at met
  case reported =>
    rintro id violation (leaves | parted)
    · cases leaves
    · exact absurd parted unparted
  case closed =>
    intro id parting parted
    exact absurd parted unparted
  case closing =>
    intro label moment suffix
    exact absurd rfl (untouched label _ (suffix.subset List.mem_cons_self))

namespace Site

/-- While no pass fails, the packets offered for a client are those of the
complete frames at the front of what it has sent: at each end of a pass, and
when its stream is closed. Its session counts them, and is there only as long as
no violation has been met; the violation that is met is why it was parted from. -/
theorem submission_exact (site : Site) (opened : site.Opened) (moves : List Move)
    (unfailing : site.unfailing moves = true) (label : Nat) :
    let after := site.play moves
    let parsed := parse (got label after.calls)
    offered label after.calls = parsed.packets ∧
      (∀ session ∈ after.relay.roster.sessions, session.label = label →
        session.tally.received = parsed.packets.length ∧ parsed.violation = none) ∧
      (∀ violation, parsed.violation = some violation ↔
        ∃ id, named after.calls id = some label ∧
          .parted id (.protocol violation) ∈ after.kernel.record.notices) ∧
      (∀ id parting, named after.calls id = some label →
        .parted id parting ∈ after.kernel.record.notices →
          .close (.client label) ∈ after.calls) ∧
      ∀ moment, .close (.client label) :: moment <:+ after.calls →
        offered label moment = (parse (got label moment)).packets := by
  intro after parsed
  obtain ⟨_, submits⟩ := play_kept submits_kept moves (.inl unfailing)
    ⟨opened.sound, opened.submits⟩
  refine ⟨submits.offered label, ?_, ?_, ?_, submits.closing label⟩
  · rintro session member rfl
    obtain ⟨packets, keeping⟩ := submits.rest_keeping member
    have found : parsed = { packets } := keeping.parsed
    rw [found]
    exact ⟨keeping.received, rfl⟩
  · intro violation
    constructor
    · intro met
      obtain ⟨id, name, leaves | parted⟩ := submits.violations label violation met
      · cases leaves
      · exact ⟨id, name, parted⟩
    · rintro ⟨id, name, parted⟩
      obtain ⟨other, otherName, met⟩ := submits.reported id violation (.inr parted)
      -- An id is given to one client only.
      cases Option.some.inj (name.symm.trans otherName)
      exact met
  · intro id parting name parted
    obtain ⟨other, otherName, close⟩ := submits.closed id parting parted
    cases Option.some.inj (name.symm.trans otherName)
    exact close

/-- A frame in two pieces, with an empty frame and another behind it. -/
theorem submission_up_to_violation :
    let site := fresh {}
    let moves : List Move := [.world (.connect 1 none), .pass,
      .world (.supplyClient 1 { inbound := [.data [0, 0, 0, 2, 7]] }), .pass,
      .world (.supplyClient 1 { inbound := [.data [8, 0, 0, 0, 0, 0, 0, 0, 1, 9]] }), .pass]
    let after := site.play moves
    let parsed := parse (got 1 after.calls)
    (site.Opened ∧ site.unfailing moves = true ∧ parsed = ⟨[[7, 8]], some .empty⟩) ∧
      offered 1 after.calls = parsed.packets ∧
      (∀ session ∈ after.relay.roster.sessions, session.label = 1 →
        session.tally.received = parsed.packets.length ∧ parsed.violation = none) ∧
      (∀ violation, parsed.violation = some violation ↔
        ∃ id, named after.calls id = some 1 ∧
          .parted id (.protocol violation) ∈ after.kernel.record.notices) ∧
      (∀ id parting, named after.calls id = some 1 →
        .parted id parting ∈ after.kernel.record.notices → .close (.client 1) ∈ after.calls) ∧
      ∀ moment, .close (.client 1) :: moment <:+ after.calls →
        offered 1 moment = (parse (got 1 moment)).packets :=
  ⟨⟨fresh_opened {}, by decide +kernel, by decide +kernel⟩,
    submission_exact (fresh {}) (fresh_opened {}) _ (by decide +kernel) 1⟩

end Site
end PacketRelay
