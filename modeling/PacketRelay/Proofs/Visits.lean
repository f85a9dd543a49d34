import PacketRelay.Proofs.Failing
import PacketRelay.Proofs.Footprints
import PacketRelay.Proofs.Owning

/-!
The visits of a pass. The poll's answer is a snapshot that is worked through while
the roster changes under it. Main statement: the sources on which something was
reported are visited once each and in order, as far as the pass goes, each visit
concerns the source that was polled and no other, and whoever is not visited is
left alone.
-/

namespace PacketRelay

open Kernel (Call Descriptor Flags)
open History (Made named)

structure Prompt where
  source : Source
  descriptor : Descriptor
  flags : Flags

def prompts (watched : List (Source × Descriptor × Flags)) (answers : List Flags) : List Prompt :=
  (watched.zipWith (fun entry flags => ⟨entry.1, entry.2.1, flags⟩) answers).filter (·.flags.any)

def Source.rank : Source → Nat
  | .tunnel => 0
  | .channel => 1
  | .client id => id + 2

/-- What a relay watches and for what: a client for writing if a tail is pending for it. -/
inductive Relay.Watching (relay : Relay) : Descriptor × Flags → Prop
  | tunnel (present : relay.tunnel.isSome) : Watching relay (.tunnel, { readable := true })
  | channel (listening : relay.channel.isOpen = true) :
      Watching relay (.channel, { readable := true })
  | client {session : Session} (member : session ∈ relay.roster.sessions) :
      Watching relay
        (.client session.label, { readable := true, writable := session.pending ≠ [] })

/-- A call that takes from what waits at a descriptor, or tries to. -/
def Kernel.Call.takes (descriptor : Descriptor) : Call → Bool
  | .read used .. => used = descriptor
  | .accept _ => descriptor = .channel
  | _ => false

def Kernel.Call.moves (label : Nat) : Call → Bool
  | .read used .. | .write used .. => used = .client label
  | _ => false

structure Visit where
  prompt : Prompt
  before : Site
  result : Except Failure Unit
  after : Site

namespace Site

def visit (prompt : Prompt) (site : Site) : Visit :=
  { prompt
    before := site
    result := (site.serve prompt.source prompt.flags).1
    after := (site.serve prompt.source prompt.flags).2 }

def visitAll : List Prompt → Site → List Visit
  | [], _ => []
  | prompt :: rest, site =>
      let visit := site.visit prompt
      match visit.result with
      | .ok () => visit :: visit.after.visitAll rest
      | .error _ => [visit]

def answer (site : Site) : Except Errno (List Flags) :=
  (site.kernel.poll site.relay.pollTimeout ((watched site.relay).map (·.2))).1

def polled (site : Site) : Site :=
  { site with
    kernel := (site.kernel.poll site.relay.pollTimeout ((watched site.relay).map (·.2))).2 }

def visits (site : Site) : List Visit :=
  match site.answer with
  | .ok answers => site.polled.visitAll (prompts (watched site.relay) answers)
  | .error _ => []

/-- Each visit starts where the one before it ended, and only the last may fail. -/
inductive Walk : Site → List Visit → Except Failure Unit → Site → Prop
  | done (site : Site) : Walk site [] (.ok ()) site
  | ended {visit : Visit} {failure : Failure} (failed : visit.result = .error failure) :
      Walk visit.before [visit] (.error failure) visit.after
  | on {visit : Visit} {later : List Visit} {result : Except Failure Unit} {last : Site}
      (passed : visit.result = .ok ()) (rest : Walk visit.after later result last) :
      Walk visit.before (visit :: later) result last

end Site

open Site (Walk)

/-- The visit has served the source that was polled, and no other. A client whose session is
gone by then is passed over. -/
inductive Visit.Proper : Visit → Prop
  | tunnel {flags : Flags} {before after : Site} {result : Except Failure Unit}
      (served : before.readTunnel = (result, after)) (broadcasts : before.Broadcasts after)
      (read : ∃ outcome, Made (.read .tunnel Tunnel.maxPacketSize outcome) before.calls
        after.calls) :
      Proper ⟨⟨.tunnel, .tunnel, flags⟩, before, result, after⟩
  | channel {flags : Flags} {before after : Site} (served : before.acceptClients = after)
      (admits : before.Admits after)
      (asked : ∃ outcome, Made (.accept outcome) before.calls after.calls) :
      Proper ⟨⟨.channel, .channel, flags⟩, before, .ok (), after⟩
  | client {flags : Flags} {before after : Site} {result : Except Failure Unit} {session : Session}
      (found : before.relay.roster.find? session.id = some session)
      (served : before.serveClient session.id flags = (result, after))
      (attended : before.Attended session flags after) :
      Proper ⟨⟨.client session.id, .client session.label, flags⟩, before, result, after⟩
  | gone {id label : Nat} {flags : Flags} {site : Site}
      (absent : ∀ session ∈ site.relay.roster.sessions, session.id ≠ id) :
      Proper ⟨⟨.client id, .client label, flags⟩, site, .ok (), site⟩

/-! ## The poll -/

namespace Kernel

theorem reportOn_queue (kernel : Kernel) (watched : Descriptor) (requested : Flags)
    (descriptor : Descriptor) :
    (kernel.reportOn watched requested).2.queue descriptor = kernel.queue descriptor := by
  cases watched with
  | tunnel =>
      have same := (kernel.tunnel.report_inbound requested).1
      cases descriptor with
      | tunnel => exact congrArg Sum.inl same
      | channel | client => rfl
  | channel =>
      unfold reportOn
      dsimp only
      split
      · cases descriptor <;> rfl
      · rfl
  | client label =>
      have same := ((kernel.client label).report_inbound requested).1
      cases descriptor with
      | tunnel | channel => rfl
      | client other =>
          have stream := kernel.client_setClient label other
            ((kernel.client label).report requested).2
          simp only [reportOn, queue, stream]
          split
          · next own => rw [same, own]
          · rfl

theorem reports_queue (watched : List (Descriptor × Flags)) (kernel : Kernel)
    (descriptor : Descriptor) :
    (kernel.reports watched).2.queue descriptor = kernel.queue descriptor := by
  induction watched generalizing kernel with
  | nil => rfl
  | cons entry rest ih => exact (ih _).trans (kernel.reportOn_queue entry.1 entry.2 descriptor)

theorem poll_queue (timeout : Nat) (watched : List (Descriptor × Flags)) (kernel : Kernel)
    (descriptor : Descriptor) :
    (kernel.poll timeout watched).2.queue descriptor = kernel.queue descriptor := by
  rw [← kernel.reports_queue watched]
  unfold poll
  dsimp only
  split
  · rfl
  · cases descriptor <;> rfl

theorem reports_length (watched : List (Descriptor × Flags)) (kernel : Kernel) :
    (kernel.reports watched).1.length = watched.length := by
  induction watched generalizing kernel with
  | nil => rfl
  | cons entry rest ih => exact congrArg (· + 1) (ih _)

end Kernel

section

variable (watched : List (Source × Descriptor × Flags)) (answers : List Flags)

/-- Prompts come in the order in which the sources are watched. -/
theorem prompts_sublist :
    ((prompts watched answers).map fun prompt => (prompt.source, prompt.descriptor)).Sublist
      (watched.map fun entry => (entry.1, entry.2.1)) := by
  induction watched generalizing answers with
  | nil => exact .slnil
  | cons entry rest ih =>
      cases answers with
      | nil => exact List.nil_sublist _
      | cons flags later =>
          simp only [prompts, List.zipWith_cons_cons, List.filter_cons] at ih ⊢
          split
          · exact (ih later).cons_cons _
          · exact (ih later).cons _

theorem prompts_silent (silent : ∀ flags ∈ answers, flags.any = false) :
    prompts watched answers = [] := by
  induction watched generalizing answers with
  | nil => rfl
  | cons entry rest ih =>
      cases answers with
      | nil => rfl
      | cons flags later =>
          obtain ⟨first, others⟩ := List.forall_mem_cons.mp silent
          simpa [prompts, first] using ih later others

theorem prompts_ready :
    ((watched.map (·.1)).zip answers).filter (·.2.any) =
      (prompts watched answers).map fun prompt => (prompt.source, prompt.flags) := by
  induction watched generalizing answers with
  | nil => rfl
  | cons entry rest ih =>
      cases answers with
      | nil => rfl
      | cons flags later =>
          simp only [prompts, List.map_cons, List.zip_cons_cons, List.zipWith_cons_cons,
            List.filter_cons] at ih ⊢
          split
          · rw [ih, List.map_cons]
          · exact ih later

end

namespace Site

theorem ready_eq (site : Site) : site.ready =
    (match site.answer with
      | .ok answers => .ok ((prompts (watched site.relay) answers).map fun prompt =>
          (prompt.source, prompt.flags))
      | .error errno => if errno = .interrupted then .ok [] else .error (.poll errno),
    site.polled) := by
  unfold ready answer polled
  dsimp only
  split
  · next answers kernel made =>
      rw [made]
      simp only [← prompts_ready]
  · next errno kernel made => rw [made]

theorem serveAll_walk (prompts : List Prompt) (site : Site) :
    Walk site (site.visitAll prompts)
      (site.serveAll (prompts.map fun prompt => (prompt.source, prompt.flags))).1
      (site.serveAll (prompts.map fun prompt => (prompt.source, prompt.flags))).2 := by
  induction prompts generalizing site with
  | nil => exact .done site
  | cons prompt rest ih =>
      have served : site.serve prompt.source prompt.flags =
          ((site.visit prompt).result, (site.visit prompt).after) := rfl
      change Walk (site.visit prompt).before _ _ _
      simp only [visitAll, List.map_cons, serveAll, served]
      cases outcome : (site.visit prompt).result with
      | ok value => exact .on outcome (ih _)
      | error failure => exact .ended outcome

theorem visitAll_prompts (prompts : List Prompt) (site : Site) :
    (site.visitAll prompts).map (·.prompt) <+: prompts ∧
      ((site.serveAll (prompts.map fun prompt => (prompt.source, prompt.flags))).1 = .ok () →
        (site.visitAll prompts).map (·.prompt) = prompts) := by
  induction prompts generalizing site with
  | nil => exact ⟨List.prefix_rfl, fun _ => rfl⟩
  | cons prompt rest ih =>
      have served : site.serve prompt.source prompt.flags =
          ((site.visit prompt).result, (site.visit prompt).after) := rfl
      simp only [visitAll, List.map_cons, serveAll, served]
      cases outcome : (site.visit prompt).result with
      | ok value =>
          obtain ⟨part, whole⟩ := ih (site.visit prompt).after
          exact ⟨List.cons_prefix_cons.mpr ⟨rfl, part⟩, fun passed => congrArg _ (whole passed)⟩
      | error failure => exact ⟨List.cons_prefix_cons.mpr ⟨rfl, List.nil_prefix⟩, by rintro ⟨⟩⟩

end Site

/-! ## The visits -/

inductive Prompt.Known (site : Site) : Prompt → Prop
  | tunnel {flags : Flags} (present : site.relay.tunnel.isSome) :
      Known site ⟨.tunnel, .tunnel, flags⟩
  | channel {flags : Flags} (listening : site.relay.channel.isOpen = true) :
      Known site ⟨.channel, .channel, flags⟩
  | client {id label : Nat} {flags : Flags} (present : site.relay.tunnel.isSome)
      (name : named site.calls id = some label) : Known site ⟨.client id, .client label, flags⟩

theorem Prompt.Known.later {site next : Site} {prompt : Prompt} (known : prompt.Known site)
    (evolves : site.relay.Evolves next.relay) (grows : site.calls <:+ next.calls) :
    prompt.Known next := by
  cases known with
  | tunnel present => exact .tunnel (evolves.tunnel ▸ present)
  | channel listening => exact .channel (evolves.channel ▸ listening)
  | client present name =>
      exact .client (evolves.tunnel ▸ present) (History.named_suffix grows name)

namespace Site

variable {site last : Site} {prompt : Prompt}

theorem visit_proper (sound : Stage.Sound (.rest site)) (known : prompt.Known site) :
    (site.visit prompt).Proper := by
  cases known with
  | tunnel present => exact .tunnel rfl (readTunnel_broadcasts site) (readTunnel_made present)
  | channel listening =>
      exact .channel rfl (acceptClients_admits site sound.numbered)
        (acceptClients_made sound.numbered listening)
  | @client id label flags present name =>
      have orderly := Orderly.of_sound sound
      -- The session may have left since it was polled.
      cases found : site.relay.roster.find? id with
      | none =>
          have absent : ∀ session ∈ site.relay.roster.sessions, session.id ≠ id := by
            simpa [Roster.find?] using found
          have idle : site.serveClient id flags = (.ok (), site) := by
            simp only [serveClient, found]
          have same : site.visit ⟨.client id, .client label, flags⟩ =
              ⟨⟨.client id, .client label, flags⟩, site, .ok (), site⟩ := by
            simp only [visit, serve, idle]
          rw [same]
          exact .gone absent
      | some session =>
          obtain ⟨member, rfl⟩ := Roster.mem_of_find? found
          obtain rfl := orderly.label_eq name session member rfl
          exact .client found rfl (serveClient_attended orderly found
            (sound.rest_connected member) present flags)

theorem visitAll_proper {prompts : List Prompt} (sound : Stage.Sound (.rest site))
    (known : ∀ prompt ∈ prompts, prompt.Known site) :
    ∀ visit ∈ site.visitAll prompts, visit.Proper := by
  induction prompts generalizing site with
  | nil => simp [visitAll]
  | cons prompt rest ih =>
      have first := visit_proper sound (known prompt List.mem_cons_self)
      have path := serve_path site prompt.source prompt.flags sound.ordered
      have evolves := serve_evolves prompt.source prompt.flags site
      have later := @ih (site.visit prompt).after (path.sound sound) fun other member =>
        (known other (List.mem_cons_of_mem prompt member)).later evolves path.grows
      intro visit member
      simp only [visitAll] at member
      split at member
      · rcases List.mem_cons.mp member with rfl | inside
        · exact first
        · exact later visit inside
      · rw [List.mem_singleton.mp member]
        exact first

end Site

namespace Visit.Proper

variable {visit : Visit}

theorem confined (proper : visit.Proper) :
    Site.Confined visit.prompt.descriptor visit.before visit.after := by
  cases proper with
  | tunnel _ broadcasts => exact broadcasts.toConfined
  | channel _ admits => exact admits.toConfined
  | client _ _ attended => exact attended.toConfined
  | gone => exact .refl _ _

/-- A session stays on the roster while the channel and other clients are served. If it is
gone after the tunnel was served, its stream has been closed. -/
theorem stays {id label : Nat} (proper : visit.Proper)
    (other : visit.prompt.descriptor ≠ .client label)
    (present : ∃ session ∈ visit.before.relay.roster.sessions,
      session.id = id ∧ session.label = label) :
    (∃ session ∈ visit.after.relay.roster.sessions, session.id = id ∧ session.label = label) ∨
      visit.prompt.source = .tunnel ∧
        Made (.close (.client label)) visit.before.calls visit.after.calls := by
  obtain ⟨session, member, rfl, rfl⟩ := present
  cases proper with
  | tunnel _ broadcasts =>
      rcases broadcasts.left session member with still | closed
      · exact .inl still
      · exact .inr ⟨rfl, closed⟩
  | channel _ admits => exact .inl ⟨session, admits.sessions member, rfl, rfl⟩
  | client _ _ attended =>
      have different : session.label ≠ _ := fun same => other (congrArg Descriptor.client same.symm)
      exact .inl ⟨session, (attended.others session different).mpr member, rfl, rfl⟩
  | gone => exact .inl ⟨session, member, rfl, rfl⟩

end Visit.Proper

theorem Kernel.Call.takes_own {own descriptor : Descriptor} {call : Call}
    (serves : call.serves own = true) (takes : call.takes descriptor = true) :
    descriptor = own := by
  cases call with
  | read used size outcome =>
      obtain rfl := of_decide_eq_true takes
      cases own <;> simp_all [Call.serves]
  | accept outcome =>
      obtain rfl := of_decide_eq_true takes
      cases own <;> simp_all [Call.serves]
  | _ => cases takes

theorem Kernel.Call.client_of_moves {label : Nat} {call : Call} (moves : call.moves label = true) :
    call.client? = some label := by
  unfold Call.moves at moves
  split at moves
  · rw [of_decide_eq_true moves]
    rfl
  · rw [of_decide_eq_true moves]
    rfl
  · cases moves

theorem Kernel.Call.moves_channel {call : Call} (serves : call.serves .channel = true)
    (label : Nat) : call.moves label = false := by
  cases call <;> first | rfl | cases serves

theorem Kernel.Call.moves_client {own label : Nat} {call : Call}
    (serves : call.serves (.client own) = true) (other : label ≠ own) :
    call.moves label = false := by
  cases call with
  | read used size outcome =>
      obtain rfl := of_decide_eq_true serves
      simp [Call.moves, other.symm]
  | write used bytes outcome =>
      have usedOne : used = .client own ∨ used = .tunnel := by simpa [Call.serves] using serves
      rcases usedOne with rfl | rfl
      · simp [Call.moves, other.symm]
      · rfl
  | _ => rfl

/-- A visit takes nothing from any other descriptor than its own. -/
theorem Visit.Proper.untouched {visit : Visit} (proper : visit.Proper) {descriptor : Descriptor}
    (other : visit.prompt.descriptor ≠ descriptor) :
    visit.after.kernel.queue descriptor = visit.before.kernel.queue descriptor ∧
      ∃ new, visit.after.calls = new ++ visit.before.calls ∧
        ∀ call ∈ new, call.takes descriptor = false := by
  obtain ⟨⟨new, appended, serve⟩, queues⟩ := proper.confined
  refine ⟨queues descriptor other.symm, new, appended, fun call member => ?_⟩
  exact Bool.eq_false_iff.mpr fun takes => other (Call.takes_own (serve call member) takes).symm

namespace Site.Walk

variable {site last : Site} {visits : List Visit} {result : Except Failure Unit}

theorem untouched (walk : Walk site visits result last) (proper : ∀ visit ∈ visits, visit.Proper)
    {descriptor : Descriptor} (unvisited : ∀ visit ∈ visits, visit.prompt.descriptor ≠ descriptor) :
    last.kernel.queue descriptor = site.kernel.queue descriptor ∧
      ∃ new, last.calls = new ++ site.calls ∧ ∀ call ∈ new, call.takes descriptor = false := by
  induction walk with
  | done site => exact ⟨rfl, [], rfl, by simp⟩
  | @ended visit failure failed =>
      exact (proper visit List.mem_cons_self).untouched (unvisited visit List.mem_cons_self)
  | @on visit later result last passed rest ih =>
      obtain ⟨first, others⟩ := List.forall_mem_cons.mp proper
      obtain ⟨aside, othersAside⟩ := List.forall_mem_cons.mp unvisited
      obtain ⟨queue, new, appended, spare⟩ := first.untouched aside
      obtain ⟨laterQueue, more, laterAppended, laterSpare⟩ := ih others othersAside
      refine ⟨laterQueue.trans queue, more ++ new,
        by rw [laterAppended, appended, List.append_assoc], ?_⟩
      exact List.forall_mem_append.mpr ⟨laterSpare, spare⟩

/-- Whoever was there at the start and is not found when visited has been closed while the
tunnel was served. -/
theorem closed (walk : Walk site visits result last) (proper : ∀ visit ∈ visits, visit.Proper)
    (apart : visits.Pairwise (·.prompt.descriptor ≠ ·.prompt.descriptor)) {id label : Nat}
    (present : ∃ session ∈ site.relay.roster.sessions, session.id = id ∧ session.label = label)
    {missed : Visit} (member : missed ∈ visits) (own : missed.prompt.descriptor = .client label)
    (absent : ∀ session ∈ missed.before.relay.roster.sessions, session.id ≠ id) :
    ∃ first ∈ visits, first.prompt.source = .tunnel ∧
      Made (.close (.client label)) first.before.calls first.after.calls := by
  induction walk with
  | done => cases member
  | @ended visit failure failed =>
      obtain rfl := List.mem_singleton.mp member
      obtain ⟨session, inside, rfl, _⟩ := present
      exact absurd rfl (absent session inside)
  | @on visit later result last passed rest ih =>
      obtain ⟨first, others⟩ := List.forall_mem_cons.mp proper
      obtain ⟨differs, laterApart⟩ := List.pairwise_cons.mp apart
      rcases List.mem_cons.mp member with rfl | inside
      · obtain ⟨session, inside, rfl, _⟩ := present
        exact absurd rfl (absent session inside)
      -- Either this visit closed it, or it is still to be looked for in those that follow.
      · rcases first.stays (own ▸ differs missed inside) present with still | closed
        · obtain ⟨closing, listed, found⟩ := ih others laterApart still inside
          exact ⟨closing, List.mem_cons_of_mem visit listed, found⟩
        · exact ⟨visit, List.mem_cons_self, closed⟩

end Site.Walk

/-! ## Newcomers -/

/-- A session that is as new, of a client that the relay had not dealt with at the start and
that has neither been read nor written to. -/
structure Newcomer (start calls : List Call) (session : Session) : Prop where
  fresh : session = { id := session.id, label := session.label }
  unknown : ∀ call ∈ start, call.client? ≠ some session.label
  unmoved : ∀ call ∈ calls, call.moves session.label = false

def Site.Welcomes (issued : Nat) (start : List Call) (site : Site) : Prop :=
  ∀ session ∈ site.relay.roster.sessions, session.id ≤ issued ∨
    Newcomer start site.calls session

namespace Visit.Proper

variable {visit : Visit} {issued : Nat} {start : List Call}

theorem welcomes (proper : visit.Proper) (aside : visit.prompt.source ≠ .tunnel)
    (named : ∀ label, visit.prompt.descriptor = .client label →
      ∃ call ∈ start, call.client? = some label)
    (grown : start <:+ visit.before.calls) (welcomes : visit.before.Welcomes issued start) :
    visit.after.Welcomes issued start := by
  cases proper with
  | tunnel => exact absurd rfl aside
  | @channel flags before after served admits asked =>
      obtain ⟨new, appended, serve⟩ := admits.calls
      have spare (label : Nat) : ∀ call ∈ new, call.moves label = false :=
        fun call member => Call.moves_channel (serve call member) label
      intro session member
      change _ ∨ Newcomer start after.calls session
      rw [appended]
      rcases admits.joined session member with old | ⟨fresh, untouched⟩
      · rcases welcomes session old with known | newcomer
        · exact .inl known
        · exact .inr ⟨newcomer.fresh, newcomer.unknown,
            List.forall_mem_append.mpr ⟨spare _, newcomer.unmoved⟩⟩
      · refine .inr ⟨fresh, fun call made => untouched call (grown.subset made),
          List.forall_mem_append.mpr ⟨spare _, fun call made => ?_⟩⟩
        exact Bool.eq_false_iff.mpr fun moves => untouched call made (Call.client_of_moves moves)
  | @client flags before after result client found served attended =>
      obtain ⟨new, appended, serve⟩ := attended.calls
      obtain ⟨call, made, about⟩ := named client.label rfl
      intro session member
      change _ ∨ Newcomer start after.calls session
      rw [appended]
      -- The client that is served was known at the start, so it is no newcomer.
      by_cases own : session.label = client.label
      · obtain ⟨was, old, id, label⟩ := attended.known session member
        rcases welcomes was old with known | newcomer
        · exact .inl (id ▸ known)
        · exact absurd (about.trans (congrArg some (label.trans own).symm))
            (newcomer.unknown call made)
      · rcases welcomes session ((attended.others session own).mp member) with known | newcomer
        · exact .inl known
        · exact .inr ⟨newcomer.fresh, newcomer.unknown, List.forall_mem_append.mpr
            ⟨fun call inside => Call.moves_client (serve call inside) own, newcomer.unmoved⟩⟩
  | gone => exact welcomes

theorem welcomes_first (proper : visit.Proper)
    (named : ∀ label, visit.prompt.descriptor = .client label →
      ∃ call ∈ start, call.client? = some label)
    (grown : start <:+ visit.before.calls)
    (old : ∀ session ∈ visit.before.relay.roster.sessions, session.id ≤ issued) :
    visit.after.Welcomes issued start := by
  by_cases first : visit.prompt.source = .tunnel
  · cases proper with
    | tunnel _ broadcasts =>
        intro session member
        obtain ⟨was, present, id, _⟩ := broadcasts.known session member
        exact .inl (id ▸ old was present)
    | channel | client | gone => cases first
  · exact proper.welcomes first named grown fun session member => .inl (old session member)

end Visit.Proper

namespace Site.Walk

variable {site last : Site} {visits : List Visit} {result : Except Failure Unit} {issued : Nat}
  {start : List Call}

theorem welcomes (walk : Walk site visits result last) (proper : ∀ visit ∈ visits, visit.Proper)
    (aside : ∀ visit ∈ visits, visit.prompt.source ≠ .tunnel)
    (named : ∀ visit ∈ visits, ∀ label, visit.prompt.descriptor = .client label →
      ∃ call ∈ start, call.client? = some label)
    (grown : start <:+ site.calls) (welcomes : site.Welcomes issued start) :
    last.Welcomes issued start := by
  induction walk with
  | done => exact welcomes
  | @ended visit failure failed =>
      have here := List.mem_singleton_self visit
      exact (proper visit here).welcomes (aside visit here) (named visit here) grown welcomes
  | @on visit later result last passed rest ih =>
      obtain ⟨first, others⟩ := List.forall_mem_cons.mp proper
      obtain ⟨firstAside, othersAside⟩ := List.forall_mem_cons.mp aside
      obtain ⟨firstNamed, othersNamed⟩ := List.forall_mem_cons.mp named
      have next := first.welcomes firstAside firstNamed grown welcomes
      exact ih others othersAside othersNamed (grown.trans first.confined.grows) next

/-- In a walk only the first visit may be to the tunnel, and then no one is new yet. -/
theorem welcomes_all (walk : Walk site visits result last)
    (proper : ∀ visit ∈ visits, visit.Proper)
    (ordered : visits.Pairwise (·.prompt.source.rank < ·.prompt.source.rank))
    (named : ∀ visit ∈ visits, ∀ label, visit.prompt.descriptor = .client label →
      ∃ call ∈ start, call.client? = some label)
    (grown : start <:+ site.calls)
    (old : ∀ session ∈ site.relay.roster.sessions, session.id ≤ issued) :
    last.Welcomes issued start := by
  cases walk with
  | done => exact fun session member => .inl (old session member)
  | @ended visit failure failed =>
      have here := List.mem_singleton_self visit
      exact (proper visit here).welcomes_first (named visit here) grown old
  | @on visit later result last passed rest =>
      obtain ⟨first, others⟩ := List.forall_mem_cons.mp proper
      obtain ⟨firstNamed, othersNamed⟩ := List.forall_mem_cons.mp named
      -- What ranks above another source is not the tunnel.
      have aside : ∀ other ∈ later, other.prompt.source ≠ .tunnel := by
        intro other member isTunnel
        have below := (List.pairwise_cons.mp ordered).1 other member
        rw [isTunnel] at below
        exact Nat.not_lt_zero _ below
      exact rest.welcomes others aside othersNamed (grown.trans first.confined.grows)
        (first.welcomes_first firstNamed grown old)

end Site.Walk

/-! ## A pass -/

namespace Site

variable {site : Site}

theorem mem_watched {relay : Relay} {entry : Source × Descriptor × Flags} :
    entry ∈ watched relay ↔
      (entry = (.tunnel, .tunnel, Flags.reading) ∧ relay.tunnel.isSome) ∨
      (entry = (.channel, .channel, Flags.reading) ∧ relay.channel.isOpen = true) ∨
      ∃ session ∈ relay.roster.sessions,
        entry = (.client session.id, .client session.label, watchedFlags session) := by
  simp only [watched, List.mem_append, List.mem_map, or_assoc]
  refine or_congr ?_ (or_congr ?_ ?_)
  · split <;> simp_all
  · split <;> simp_all
  · exact exists_congr fun session => and_congr_right fun _ => eq_comm

theorem mem_watching {relay : Relay} {entry : Descriptor × Flags} :
    entry ∈ (watched relay).map (·.2) ↔ relay.Watching entry := by
  have asks (session : Session) : watchedFlags session =
      { readable := true, writable := session.pending ≠ [] } := by
    cases pending : session.pending <;> simp [watchedFlags, Session.wantsWrite, pending]
  constructor
  · intro listed
    obtain ⟨watching, member, rfl⟩ := List.mem_map.mp listed
    rcases mem_watched.mp member with ⟨rfl, present⟩ | ⟨rfl, listening⟩ | ⟨session, inside, rfl⟩
    · exact .tunnel present
    · exact .channel listening
    · change relay.Watching (.client session.label, watchedFlags session)
      rw [asks]
      exact .client inside
  · intro watching
    cases watching with
    | tunnel present => exact List.mem_map.mpr ⟨_, mem_watched.mpr (.inl ⟨rfl, present⟩), rfl⟩
    | channel listening =>
        exact List.mem_map.mpr ⟨_, mem_watched.mpr (.inr (.inl ⟨rfl, listening⟩)), rfl⟩
    | @client session member =>
        rw [← asks]
        exact List.mem_map.mpr ⟨_, mem_watched.mpr (.inr (.inr ⟨session, member, rfl⟩)), rfl⟩

theorem watched_ordered (ordered : site.relay.roster.Ordered) :
    (watched site.relay).Pairwise (·.1.rank < ·.1.rank) := by
  unfold watched
  split <;> split <;> simpa [List.pairwise_map, Source.rank] using ordered.ids

/-- A poll that gives nothing, or is interrupted, leaves nothing to do. -/
theorem pass_eq (site : Site) : site.pass =
    match site.answer with
    | .ok answers => site.polled.serveAll ((prompts (watched site.relay) answers).map fun prompt =>
        (prompt.source, prompt.flags))
    | .error errno =>
        (if errno = .interrupted then .ok () else .error (.poll errno), site.polled) := by
  unfold pass
  rw [ready_eq]
  cases site.answer with
  | ok answers => rfl
  | error errno =>
      by_cases interrupted : errno = .interrupted
      · simp only [if_pos interrupted, serveAll]
      · simp only [if_neg interrupted]

/-- A relay has its tunnel for as long as it watches anything. -/
theorem Reachable.equipped (reachable : site.Reachable) :
    site.relay.tunnel.isSome ∨ watched site.relay = [] := by
  induction reachable with
  | opened opened =>
      obtain ⟨name, channel, settings, _, relay⟩ := opened.relay
      exact .inl (by simp [relay, Relay.withTunnel])
  | @moved site _ made ih =>
      cases made with
      | world deed => exact ih
      | pass =>
          rcases ih with present | nothing
          · exact .inl (site.pass_evolves.tunnel ▸ present)
          · have idle : site.pass.2 = site.polled := by
              rw [pass_eq]
              cases site.answer with
              | ok answers => simp only [nothing, prompts, List.zipWith_nil_left, List.filter_nil,
                  List.map_nil, serveAll]
              | error errno => rfl
            exact .inr (show watched site.pass.2.relay = [] from idle ▸ nothing)
      | shutdown =>
          have ended := site.shutdown_ended
          refine .inr ?_
          change watched site.shutdown.relay = []
          simp [watched, ended.tunnel, ended.channel, ended.roster]
  | flagged _ _ ih => exact ih
  | begun _ ih => exact ih
  | reported _ _ ih => exact ih

theorem prompts_watched {answers : List Flags} {prompt : Prompt}
    (member : prompt ∈ prompts (watched site.relay) answers) :
    ∃ entry ∈ watched site.relay, entry.1 = prompt.source ∧ entry.2.1 = prompt.descriptor := by
  have listed := (prompts_sublist (watched site.relay) answers).subset
    (List.mem_map_of_mem (f := fun prompt : Prompt => (prompt.source, prompt.descriptor)) member)
  obtain ⟨entry, inside, same⟩ := List.mem_map.mp listed
  exact ⟨entry, inside, (Prod.mk.inj same).1, (Prod.mk.inj same).2⟩

theorem prompts_known (reachable : site.Reachable) (answers : List Flags) :
    ∀ prompt ∈ prompts (watched site.relay) answers, prompt.Known site := by
  rintro ⟨source, descriptor, flags⟩ member
  obtain ⟨entry, inside, isSource, isDescriptor⟩ := prompts_watched member
  have present : site.relay.tunnel.isSome := by
    rcases reachable.equipped with present | nothing
    · exact present
    · rw [nothing] at inside
      cases inside
  rcases mem_watched.mp inside with ⟨rfl, _⟩ | ⟨rfl, listening⟩ | ⟨session, listed, rfl⟩
  · cases isSource
    cases isDescriptor
    exact .tunnel present
  · cases isSource
    cases isDescriptor
    exact .channel listening
  · cases isSource
    cases isDescriptor
    exact .client present (known_of_sound reachable.sound session listed)

structure Round (site : Site) : Prop where
  /-- It begins with one poll. -/
  asked : site.polled.calls =
    .poll site.relay.pollTimeout ((watched site.relay).map (·.2)) site.answer :: site.calls
  watching : ∀ entry, entry ∈ (watched site.relay).map (·.2) ↔ site.relay.Watching entry
  once : ((watched site.relay).map (·.2.1)).Nodup
  /-- The poll changes neither the relay nor what waits anywhere. -/
  unmoved : site.polled.relay = site.relay ∧
    ∀ descriptor, site.polled.kernel.queue descriptor = site.kernel.queue descriptor
  refused : ∀ errno, site.answer = .error errno → site.visits = [] ∧ site.pass =
    (if errno = .interrupted then .ok () else .error (.poll errno), site.polled)
  /-- The visits are those prompted by the poll, all of them unless one fails. -/
  answered : ∀ answers, site.answer = .ok answers →
    answers.length = (watched site.relay).length ∧
    Walk site.polled site.visits site.pass.1 site.pass.2 ∧
    site.visits.map (·.prompt) <+: prompts (watched site.relay) answers ∧
    (site.pass.1 = .ok () → site.visits.map (·.prompt) = prompts (watched site.relay) answers)
  /-- The tunnel comes before the channel, and the channel before the clients, who come in the
  order in which they were accepted. No one comes twice. -/
  ordered : site.visits.Pairwise (·.prompt.source.rank < ·.prompt.source.rank)
  proper : ∀ visit ∈ site.visits, visit.Proper
  /-- A client is visited by the id and the stream for which it was polled. -/
  own : ∀ visit ∈ site.visits, ∀ id, visit.prompt.source = .client id →
    ∃ session ∈ site.relay.roster.sessions, session.id = id ∧
      visit.prompt.descriptor = .client session.label
  /-- A client is passed over only if a broadcast of this pass has closed it. -/
  skipped : ∀ visit ∈ site.visits, ∀ id label, visit.prompt.source = .client id →
    visit.prompt.descriptor = .client label →
    (∀ session ∈ visit.before.relay.roster.sessions, session.id ≠ id) →
    ∃ first ∈ site.visits, first.prompt.source = .tunnel ∧
      Made (.close (.client label)) first.before.calls first.after.calls
  /-- From whatever is not visited, nothing is taken. -/
  untouched : ∀ descriptor, (∀ visit ∈ site.visits, visit.prompt.descriptor ≠ descriptor) →
    site.pass.2.kernel.queue descriptor = site.kernel.queue descriptor ∧
    ∃ new, site.pass.2.calls = new ++ site.calls ∧ ∀ call ∈ new, call.takes descriptor = false
  newcomers : ∀ session ∈ site.pass.2.relay.roster.sessions,
    site.relay.roster.issued < session.id → Newcomer site.calls site.pass.2.calls session
  idle : (site.answer = .error .interrupted ∨
      ∃ answers, site.answer = .ok answers ∧ ∀ flags ∈ answers, flags.any = false) →
    site.pass = (.ok (), site.polled)

theorem Reachable.held_nodup (reachable : site.Reachable) : site.relay.held.Nodup := by
  refine List.nodup_iff_count.mpr fun descriptor => ?_
  have once := History.Owned.once reachable.owns descriptor
  have balance := History.Owned.balance reachable.owns descriptor
  omega

theorem polled_calls (site : Site) : site.polled.calls =
    .poll site.relay.pollTimeout ((watched site.relay).map (·.2)) site.answer :: site.calls :=
  congrArg Record.calls (Kernel.poll_record ..)

theorem polled_queue (site : Site) (descriptor : Descriptor) :
    site.polled.kernel.queue descriptor = site.kernel.queue descriptor :=
  Kernel.poll_queue ..

theorem polled_sound (sound : Stage.Sound (.rest site)) : Stage.Sound (.rest site.polled) := by
  have ready : site.ready.2 = site.polled := congrArg Prod.snd site.ready_eq
  exact ready ▸ (ready_path site).sound sound

theorem answer_length {answers : List Flags} (given : site.answer = .ok answers) :
    answers.length = (watched site.relay).length := by
  have counted := Kernel.reports_length ((watched site.relay).map (·.2)) site.kernel
  rw [List.length_map] at counted
  unfold answer Kernel.poll at given
  dsimp only at given
  split at given
  · cases given
    exact counted
  · cases given

/-- However the poll went, the visits are a walk from there to where the pass ends. -/
theorem visits_walk (site : Site) : ∃ answers result,
    site.visits = site.polled.visitAll (prompts (watched site.relay) answers) ∧
      Walk site.polled site.visits result site.pass.2 := by
  have passed := site.pass_eq
  unfold visits
  cases given : site.answer with
  | ok answers =>
      simp only [given] at passed
      exact ⟨answers, _, rfl, passed ▸ serveAll_walk _ _⟩
  | error errno =>
      simp only [given] at passed
      have idle : prompts (watched site.relay) [] = [] := by simp [prompts]
      exact ⟨[], .ok (), by rw [idle]; rfl, passed ▸ .done _⟩

theorem visits_sublist (site : Site) :
    (site.visits.map fun visit => (visit.prompt.source, visit.prompt.descriptor)).Sublist
      ((watched site.relay).map fun entry => (entry.1, entry.2.1)) := by
  obtain ⟨answers, _, visited, _⟩ := site.visits_walk
  have part := (visitAll_prompts (prompts (watched site.relay) answers) site.polled).1.sublist
  rw [← visited] at part
  have listed := (part.map fun prompt => (prompt.source, prompt.descriptor)).trans
    (prompts_sublist (watched site.relay) answers)
  rwa [List.map_map] at listed

theorem visits_pairwise {R : Source × Descriptor → Source × Descriptor → Prop}
    (watching : (watched site.relay).Pairwise fun one other =>
      R (one.1, one.2.1) (other.1, other.2.1)) :
    site.visits.Pairwise fun one other => R (one.prompt.source, one.prompt.descriptor)
      (other.prompt.source, other.prompt.descriptor) :=
  List.pairwise_map.mp ((List.pairwise_map.mpr watching).sublist site.visits_sublist)

theorem visits_ordered (reachable : site.Reachable) :
    site.visits.Pairwise (·.prompt.source.rank < ·.prompt.source.rank) :=
  visits_pairwise (R := fun one other => one.1.rank < other.1.rank)
    (watched_ordered reachable.sound.ordered)

theorem visits_apart (reachable : site.Reachable) :
    site.visits.Pairwise (·.prompt.descriptor ≠ ·.prompt.descriptor) := by
  have once := reachable.held_nodup
  rw [← watched_held] at once
  exact visits_pairwise (R := fun one other => one.2 ≠ other.2) (List.pairwise_map.mp once)

theorem visits_watched {visit : Visit} (member : visit ∈ site.visits) :
    (visit.prompt.source = .tunnel ∧ visit.prompt.descriptor = .tunnel) ∨
    (visit.prompt.source = .channel ∧ visit.prompt.descriptor = .channel) ∨
    ∃ session ∈ site.relay.roster.sessions, visit.prompt.source = .client session.id ∧
      visit.prompt.descriptor = .client session.label := by
  obtain ⟨entry, watching, same⟩ := List.mem_map.mp
    (site.visits_sublist.subset (List.mem_map_of_mem member))
  obtain ⟨isSource, isDescriptor⟩ := Prod.mk.inj same
  rw [← isSource, ← isDescriptor]
  rcases mem_watched.mp watching with ⟨rfl, _⟩ | ⟨rfl, _⟩ | ⟨session, listed, rfl⟩
  · exact .inl ⟨rfl, rfl⟩
  · exact .inr (.inl ⟨rfl, rfl⟩)
  · exact .inr (.inr ⟨session, listed, rfl, rfl⟩)

theorem visits_own {visit : Visit} (member : visit ∈ site.visits) {id : Nat}
    (isClient : visit.prompt.source = .client id) :
    ∃ session ∈ site.relay.roster.sessions, session.id = id ∧
      visit.prompt.descriptor = .client session.label := by
  rcases visits_watched member with ⟨isSource, _⟩ | ⟨isSource, _⟩ |
    ⟨session, listed, isSource, isDescriptor⟩
  · cases isClient.symm.trans isSource
  · cases isClient.symm.trans isSource
  · cases isClient.symm.trans isSource
    exact ⟨session, listed, rfl, isDescriptor⟩

theorem visits_known (reachable : site.Reachable) {visit : Visit} (member : visit ∈ site.visits)
    {label : Nat} (isClient : visit.prompt.descriptor = .client label) :
    ∃ call ∈ site.calls, call.client? = some label := by
  rcases visits_watched member with ⟨_, isDescriptor⟩ | ⟨_, isDescriptor⟩ |
    ⟨session, listed, _, isDescriptor⟩
  · cases isClient.symm.trans isDescriptor
  · cases isClient.symm.trans isDescriptor
  · cases isClient.symm.trans isDescriptor
    have name := known_of_sound reachable.sound session listed
    exact History.mem_enrolled (History.mem_of_named name)

theorem visits_proper (reachable : site.Reachable) : ∀ visit ∈ site.visits, visit.Proper := by
  obtain ⟨answers, _, visited, _⟩ := site.visits_walk
  have grows : site.calls <:+ site.polled.calls := ⟨[_], (polled_calls site).symm⟩
  rw [visited]
  exact visitAll_proper (polled_sound reachable.sound) fun prompt member =>
    (prompts_known reachable answers prompt member).later (.refl _) grows

/-- Each source on which something is reported is served once in a pass, and in its turn. -/
theorem serves_in_turn (site : Site) (reachable : site.Reachable) : site.Round := by
  have proper := visits_proper reachable
  have ordered := visits_ordered reachable
  have grows : site.calls <:+ site.polled.calls := ⟨[_], (polled_calls site).symm⟩
  have passed := site.pass_eq
  obtain ⟨_, _, _, walk⟩ := site.visits_walk
  constructor
  case asked => exact polled_calls site
  case watching => exact fun entry => mem_watching
  case once =>
    rw [watched_held]
    exact reachable.held_nodup
  case unmoved => exact ⟨rfl, polled_queue site⟩
  case refused =>
    intro errno given
    simp only [given] at passed
    exact ⟨by simp only [visits, given], passed⟩
  case answered =>
    intro answers given
    simp only [given] at passed
    have visited : site.visits = site.polled.visitAll (prompts (watched site.relay) answers) := by
      simp only [visits, given]
    rw [visited, passed]
    obtain ⟨part, whole⟩ := visitAll_prompts (prompts (watched site.relay) answers) site.polled
    exact ⟨answer_length given, serveAll_walk _ _, part, whole⟩
  case ordered => exact ordered
  case proper => exact proper
  case own => exact fun visit member id isClient => visits_own member isClient
  case skipped =>
    intro visit member id label isSource isDescriptor absent
    -- Ids go with streams, so the session that is gone is the one that was watched.
    obtain ⟨session, listed, sameId, sameLabel⟩ := visits_own member isSource
    cases isDescriptor.symm.trans sameLabel
    exact walk.closed proper (visits_apart reachable) ⟨session, listed, sameId, rfl⟩ member
      isDescriptor absent
  case untouched =>
    intro descriptor unvisited
    obtain ⟨queue, new, appended, spare⟩ := walk.untouched proper unvisited
    let asked : Call := .poll site.relay.pollTimeout ((watched site.relay).map (·.2)) site.answer
    refine ⟨queue.trans (polled_queue site descriptor), new ++ [asked], ?_, ?_⟩
    · rw [appended, polled_calls, List.append_assoc]
      rfl
    · exact List.forall_mem_append.mpr ⟨spare, by simp [asked, Call.takes]⟩
  case newcomers =>
    intro session member later
    have welcomed := walk.welcomes_all proper ordered
      (fun visit inside label isClient => visits_known reachable inside isClient) grows
      reachable.sound.ordered.issued session member
    exact welcomed.resolve_left (Nat.not_le_of_lt later)
  case idle =>
    rintro (given | ⟨answers, given, silent⟩)
    · simpa only [given, if_true] using passed
    · simpa only [given, prompts_silent _ _ silent, List.map_nil, serveAll] using passed

/-- The broadcast closes the first client, which is passed over, and the tunnel does not take
what the second sends. Neither the third nor the newcomer is visited. -/
theorem serves_until_failure :
    let site := (fresh {}).play [.world (.connect 3 none), .pass,
      .world (.supplyTunnel { inbound := [.data [9]], outbound := [.failure ⟨5⟩] }),
      .world (.supplyClient 1 { inbound := [.data [0, 0, 0, 1, 7]], outbound := [.failure ⟨32⟩] }),
      .world (.supplyClient 2 { inbound := [.data [0, 0, 0, 1, 7]] }),
      .world (.supplyClient 3 { inbound := [.data [0, 0, 0, 1, 8]] }), .world (.connect 1 none)]
    site.Reachable ∧ site.Round ∧
      site.visits.map (·.prompt.source) = [.tunnel, .channel, .client 1, .client 2] ∧
      site.pass.1 = .error (.tunnelIo ⟨5⟩) ∧
      site.pass.2.relay.roster.sessions.map (·.id) = [2, 3, 4] ∧
      site.pass.2.kernel.queue (.client 3) = .inl [.data [0, 0, 0, 1, 8]] := by
  have reachable : ∀ moves, ((fresh {}).play moves).Reachable :=
    fun moves => .play (.opened (fresh_opened _)) moves
  have left (site : Site) (round : site.Round) (descriptor : Descriptor)
      (unvisited : descriptor ∉ site.visits.map (·.prompt.descriptor)) :
      site.pass.2.kernel.queue descriptor = site.kernel.queue descriptor :=
    (round.untouched descriptor fun visit member same =>
      unvisited (List.mem_map.mpr ⟨visit, member, same⟩)).1
  exact ⟨reachable _, serves_in_turn _ (reachable _), by decide +kernel,
    Failure.of_eq_some.mp (by decide +kernel), by decide +kernel,
    (left _ (serves_in_turn _ (reachable _)) _ (by decide +kernel)).trans (by decide +kernel)⟩

end Site
end PacketRelay
