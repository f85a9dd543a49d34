import PacketRelay.Proofs.Waning

/-!
Passes in spite of interruptions. A poll may report a source on which only an
interruption is to come. Serving it comes to nothing, so the two passes serve
the other sources in the same order, and come to the same.
-/

namespace PacketRelay

open Kernel (Call Descriptor Endpoint Flags Handle Wanes)
open History (named)

theorem Roster.update_self {roster : Roster} {session : Session} (ordered : roster.Ordered)
    (found : roster.find? session.id = some session) : roster.update session = roster := by
  have kept : roster.sessions.map (fun other => if other.id = session.id then session else other) =
      roster.sessions.map id := by
    apply List.map_congr_left
    intro other member
    split
    · next same =>
        have alsoFound := find?_of_mem ordered member
        rw [same, found] at alsoFound
        exact Option.some.inj alsoFound
    · rfl
  unfold update
  rw [kept, List.map_id]

namespace Site

variable {one two three : Except Failure Unit × Site}

theorem concur_symm (concur : Concur Matches one two) : Concur Matches two one :=
  ⟨concur.result.symm, concur.after.symm⟩

theorem concur_trans (first : Concur Matches one two) (second : Concur Matches two three) :
    Concur Matches one three :=
  ⟨first.result.trans second.result, first.after.trans second.after⟩

end Site

namespace Site

variable {one two site : Site} {session : Session}

/-! ## Serving a client -/

theorem readClient_concurs (same : Matches one two) (session : Session) (flags : Flags) :
    Concur Matches (one.readClient session flags) (two.readClient session flags) := by
  unfold readClient
  rw [← same.relay]
  split
  · split
    · exact ⟨rfl, same⟩
    · next name present =>
        have read := Circuit.read_concurs name Tunnel.maxPacketSize one.relay.readBudget
          (same.kernel.circuit session)
        generalize (one.kernel.circuit session).read name Tunnel.maxPacketSize
          one.relay.readBudget = first at read ⊢
        generalize (two.kernel.circuit session).read name Tunnel.maxPacketSize
          one.relay.readBudget = second at read ⊢
        obtain ⟨result, circuit⟩ := first
        obtain ⟨_, other⟩ := second
        obtain ⟨rfl, circuits⟩ := read
        have after := same.overCircuit circuits
        cases result with
        | error errno => exact ⟨rfl, after⟩
        | ok disposition =>
            cases disposition with
            | closed parting => exact ⟨rfl, closeSession_matches after session.id parting⟩
            | unfinished | idle => exact ⟨rfl, after⟩
  · split
    · exact ⟨rfl, closeSession_matches same session.id .hangUp⟩
    · exact ⟨rfl, same⟩

theorem serveClient_concurs (same : Matches one two) (id : Nat) (flags : Flags) :
    Concur Matches (one.serveClient id flags) (two.serveClient id flags) := by
  unfold serveClient
  rw [← same.relay]
  split
  · exact ⟨rfl, same⟩
  · next session found =>
      split
      · have flushed := Line.flush_concurs (same.kernel.line session)
        generalize (one.kernel.line session).flush = first at flushed ⊢
        generalize (two.kernel.line session).flush = second at flushed ⊢
        obtain ⟨result, line⟩ := first
        obtain ⟨_, other⟩ := second
        obtain ⟨rfl, lines⟩ := flushed
        have after := same.overLine lines
        cases result with
        | error parting => exact ⟨rfl, closeSession_matches after id parting⟩
        | ok value =>
            dsimp only
            rw [← lines.session]
            exact readClient_concurs after line.session flags
      · exact readClient_concurs same session flags

/-! ### A client with nothing to give or to take -/

section

variable (ordered : site.relay.roster.Ordered)
  (found : site.relay.roster.find? session.id = some session)

include ordered found

theorem overLine_self {line : Line} (lines : line.Matches (site.kernel.line session)) :
    Matches (site.overLine line) site where
  relay := by
    have same : line.session = session := lines.session
    unfold overLine
    rw [same, Roster.update_self ordered found]
  kernel := Kernel.Matches.overLine_self lines

theorem overCircuit_self {circuit : Circuit}
    (circuits : circuit.Matches (site.kernel.circuit session)) :
    Matches (site.overCircuit circuit) site where
  relay := (overLine_self ordered found circuits.line).relay
  kernel := (Kernel.Matches.overLine_self circuits.line).withTunnel circuits.tunnel

/-- Reading from a silent client changes nothing. -/
theorem readClient_silent (flags : Flags)
    (silent : (site.kernel.client session.label).Silent) (readable : flags.readable = true) :
    Concur Matches (site.readClient session flags) (.ok (), site) := by
  unfold readClient
  rw [if_pos readable]
  split
  · exact ⟨rfl, .refl site⟩
  · next name present =>
      have silent : (site.kernel.circuit session).stream.Silent := silent
      obtain ⟨disposition, openStill, read⟩ := Circuit.read_silent name site.relay.readBudget
        (show Tunnel.maxPacketSize ≠ 0 by decide) silent
      generalize (site.kernel.circuit session).read name Tunnel.maxPacketSize
        site.relay.readBudget = made at read ⊢
      obtain ⟨result, circuit⟩ := made
      obtain ⟨rfl, circuits⟩ := read
      have after := overCircuit_self ordered found circuits
      cases disposition with
      | closed parting => exact absurd rfl (openStill parting)
      | unfinished | idle => exact ⟨rfl, after⟩

end

section

variable {id label : Nat} (ordered : site.relay.roster.Ordered)
  (bears : ∀ session ∈ site.relay.roster.sessions, session.id = id → session.label = label)

include ordered bears

/-- Whether a client that is silent was reported as readable makes no difference. -/
theorem serveClient_silent (writable : Bool) (silent : (site.kernel.client label).Silent) :
    Concur Matches (site.serveClient id { readable := true, writable })
      (site.serveClient id { readable := false, writable }) := by
  unfold serveClient
  split
  · exact ⟨rfl, .refl site⟩
  · next session found =>
      obtain ⟨member, rfl⟩ := Roster.mem_of_find? found
      obtain rfl := bears session member rfl
      cases writable with
      | false => exact readClient_silent ordered found { readable := true } silent rfl
      | true =>
          dsimp only
          rw [if_pos rfl, if_pos rfl]
          have sends := Line.flush_sends (site.kernel.line session)
          have still := Line.flush_keeps Endpoint.write_silent (site.kernel.line session) silent
          generalize (site.kernel.line session).flush = made at sends still ⊢
          obtain ⟨result, line⟩ := made
          cases result with
          | error parting => exact ⟨rfl, .refl _⟩
          | ok value =>
              have own : line.session.id = session.id := sends.id
              have stream : (site.overLine line).kernel.client line.session.label =
                  line.stream := by
                change (site.kernel.setClient line.session.label line.stream).client _ = _
                rw [Kernel.client_setClient, if_pos rfl]
              exact readClient_silent (Roster.update_ordered _ ordered)
                (Roster.find?_update_self (own ▸ found)) _ (stream ▸ still) rfl

theorem serveClient_blocked (readable : Bool) (blocked : (site.kernel.client label).Blocked) :
    Concur Matches (site.serveClient id { readable, writable := true })
      (site.serveClient id { readable, writable := false }) := by
  unfold serveClient
  split
  · exact ⟨rfl, .refl site⟩
  · next session found =>
      obtain ⟨member, rfl⟩ := Roster.mem_of_find? found
      obtain rfl := bears session member rfl
      have blocked : (site.kernel.line session).stream.Blocked := blocked
      have flushed := Line.flush_blocked blocked
      dsimp only
      rw [if_pos rfl, if_neg Bool.false_ne_true]
      generalize (site.kernel.line session).flush = made at flushed ⊢
      obtain ⟨result, line⟩ := made
      obtain ⟨rfl, lines⟩ := flushed
      have same : line.session = session := lines.session
      have read := readClient_concurs (overLine_self ordered found lines) session
        { readable, writable := true }
      dsimp only
      rw [same]
      exact read

end

end Site

/-! ## Glances -/

/-- What two polls may report on one source: the same, or one sees only an
interruption where the other sees nothing. -/
inductive Glance (name : Nat → Option Nat) (kernel : Kernel) : Source → Flags → Flags → Prop
  | same (source : Source) (flags : Flags) : Glance name kernel source flags flags
  | tunnel (flags other : Flags) (silent : kernel.tunnel.Silent) :
      Glance name kernel .tunnel flags other
  | channel (flags other : Flags) (quiet : kernel.Quiet) : Glance name kernel .channel flags other
  | client {id label : Nat} {readable writable alsoReadable alsoWritable : Bool}
      (named : name id = some label)
      (reads : readable = alsoReadable ∨ (kernel.client label).Silent)
      (writes : writable = alsoWritable ∨ (kernel.client label).Blocked) :
      Glance name kernel (.client id) { readable, writable }
        { readable := alsoReadable, writable := alsoWritable }

/-- The sources on which two polls report, without those on which one of them reports nothing. -/
inductive Glances (name : Nat → Option Nat) (kernel : Kernel) :
    List (Source × Flags) → List (Source × Flags) → Prop
  | nil : Glances name kernel [] []
  | both {source : Source} {flags other : Flags} {left right : List (Source × Flags)}
      (glance : Glance name kernel source flags other) (rest : Glances name kernel left right) :
      Glances name kernel ((source, flags) :: left) ((source, other) :: right)
  | left {source : Source} {flags other : Flags} {left right : List (Source × Flags)}
      (glance : Glance name kernel source flags other) (seen : flags.any = true)
      (unseen : other.any = false) (rest : Glances name kernel left right) :
      Glances name kernel ((source, flags) :: left) right
  | right {source : Source} {flags other : Flags} {left right : List (Source × Flags)}
      (glance : Glance name kernel source flags other) (unseen : flags.any = false)
      (seen : other.any = true) (rest : Glances name kernel left right) :
      Glances name kernel left ((source, other) :: right)

section

variable {name : Nat → Option Nat} {one two before after : Kernel} {source : Source}
  {flags other : Flags} {left right : List (Source × Flags)}

theorem Glance.symm (glance : Glance name one source flags other) :
    Glance name one source other flags := by
  cases glance with
  | same source flags => exact .same source flags
  | tunnel flags other silent => exact .tunnel other flags silent
  | channel flags other quiet => exact .channel other flags quiet
  | client named reads writes =>
      exact .client named (reads.imp_left Eq.symm) (writes.imp_left Eq.symm)

theorem Glance.wanes (wanes : Wanes before after) (glance : Glance name before source flags other) :
    Glance name after source flags other := by
  cases glance with
  | same source flags => exact .same source flags
  | tunnel flags other silent => exact .tunnel flags other (wanes.tunnel silent)
  | channel flags other quiet => exact .channel flags other (wanes.channel quiet)
  | client named reads writes =>
      exact .client named (reads.imp_right (wanes.silent _)) (writes.imp_right (wanes.blocked _))

theorem Glances.wanes (wanes : Wanes before after) (glances : Glances name before left right) :
    Glances name after left right := by
  induction glances with
  | nil => exact .nil
  | both glance _ ih => exact .both (glance.wanes wanes) ih
  | left glance seen unseen _ ih => exact .left (glance.wanes wanes) seen unseen ih
  | right glance unseen seen _ ih => exact .right (glance.wanes wanes) unseen seen ih

theorem Kernel.Matches.wanes (same : one.Matches two) : Wanes one two where
  tunnel silent := by
    rw [Endpoint.silent_iff, ← same.tunnel]
    exact (Endpoint.silent_iff _).mp silent
  channel quiet := by
    have noneLeft : one.knocks.filter (!·.isInterruption) = [] := by
      simpa [Kernel.Quiet] using quiet
    rw [same.knocks] at noneLeft
    simpa [Kernel.Quiet] using noneLeft
  silent label silent := by
    rw [Endpoint.silent_iff, ← same.clients label]
    exact (Endpoint.silent_iff _).mp silent
  blocked label blocked := by
    rw [Endpoint.blocked_iff, ← same.clients label]
    exact (Endpoint.blocked_iff _).mp blocked

end

/-! ## Polling -/

namespace Kernel

section

variable {one two : Endpoint}

theorem Endpoint.inbound_either (same : one.calm = two.calm) :
    one.inbound.isEmpty = two.inbound.isEmpty ∨ one.Silent := by
  have inbound := congrArg Endpoint.inbound same
  cases first : one.inbound with
  | nil => exact .inr (by simp [Silent, first])
  | cons =>
      cases second : two.inbound with
      | nil =>
          refine .inr ((Endpoint.silent_iff one).mpr ?_)
          rw [inbound]
          simp [calm, second]
      | cons => exact .inl rfl

theorem Endpoint.outbound_either (same : one.calm = two.calm) :
    (!one.outbound.isEmpty || one.room != some 0) = (!two.outbound.isEmpty || two.room != some 0) ∨
      one.Blocked := by
  have outbound := congrArg Endpoint.outbound same
  have room := congrArg Endpoint.room same
  change one.room = two.room at room
  by_cases full : one.room = some 0
  · cases first : one.outbound with
    | nil => exact .inr ⟨by simp [first], full⟩
    | cons =>
        cases second : two.outbound with
        | nil =>
            refine .inr ((Endpoint.blocked_iff one).mpr ⟨?_, full⟩)
            rw [outbound]
            simp [calm, second]
        | cons => exact .inl (by simp)
  · have openStill := bne_iff_ne.mpr full
    exact .inl (by rw [← room, openStill, Bool.or_true, Bool.or_true])

theorem Endpoint.report_either (requested : Flags) (same : one.calm = two.calm) :
    (one.report requested).2.calm = (two.report requested).2.calm ∧
      ((one.report requested).1 = (two.report requested).1 ∨
        (one.report requested).1 = one.readiness requested ∧
          (two.report requested).1 = two.readiness requested) := by
  have forced := congrArg Endpoint.forced same
  change one.forced = two.forced at forced
  unfold report
  rw [← forced]
  split
  · exact ⟨congrArg (fun endpoint : Endpoint => { endpoint with forced := none }) same, .inl rfl⟩
  · exact ⟨same, .inr ⟨rfl, rfl⟩⟩

end

section

variable {one two : Kernel} {name : Nat → Option Nat}

theorem knocks_either (same : one.Matches two) :
    one.knocks.isEmpty = two.knocks.isEmpty ∨ one.Quiet := by
  have knocks := same.knocks
  cases first : one.knocks with
  | nil => exact .inr (by simp [Quiet, first])
  | cons =>
      cases second : two.knocks with
      | nil =>
          rw [second] at knocks
          exact .inr (by simpa [Quiet] using knocks)
      | cons => exact .inl rfl

theorem reportOn_glance (same : one.Matches two) {entry : Source × Descriptor × Flags}
    (watches : Watches name entry) :
    Glance name one entry.1 (one.reportOn entry.2.1 entry.2.2).1
        (two.reportOn entry.2.1 entry.2.2).1 ∧
      (one.reportOn entry.2.1 entry.2.2).2.Matches (two.reportOn entry.2.1 entry.2.2).2 := by
  cases watches with
  | tunnel =>
      obtain ⟨tunnels, flags⟩ := Endpoint.report_either Flags.reading same.tunnel
      refine ⟨?_, same.withTunnel tunnels⟩
      change Glance name one .tunnel (one.tunnel.report _).1 (two.tunnel.report _).1
      rcases flags with equal | ⟨first, second⟩
      · rw [equal]
        exact .same ..
      -- Only what waits there can be an interruption: the tunnel is not asked for writing.
      · rcases Endpoint.inbound_either same.tunnel with equal | silent
        · rw [first, second, Endpoint.readiness, Endpoint.readiness, equal]
          exact .same ..
        · exact .tunnel _ _ silent
  | channel =>
      unfold reportOn
      dsimp only
      rw [← same.channelForced]
      split
      · refine ⟨.same .., ?_, same.clients, same.record⟩
        exact congrArg (fun kernel : Kernel => { kernel with channelForced := none }) same.calm
      · refine ⟨?_, same⟩
        rcases knocks_either same with equal | quiet
        · rw [equal]
          exact .same ..
        · exact .channel _ _ quiet
  | @client id label requested named =>
      obtain ⟨streams, flags⟩ := Endpoint.report_either requested (same.clients label)
      refine ⟨?_, same.setClient label streams⟩
      change Glance name one (.client id) ((one.client label).report _).1
        ((two.client label).report _).1
      rcases flags with equal | ⟨first, second⟩
      · rw [equal]
        exact .same ..
      · rw [first, second]
        exact .client named
          ((Endpoint.inbound_either (same.clients label)).imp_left fun equal => by rw [equal])
          ((Endpoint.outbound_either (same.clients label)).imp_left fun equal => by rw [equal])

theorem reports_glances {watched : List (Source × Descriptor × Flags)} (same : one.Matches two)
    (watches : ∀ entry ∈ watched, Watches name entry) :
    Glances name (one.reports (watched.map (·.2))).2 (answers watched one) (answers watched two) ∧
      (one.reports (watched.map (·.2))).2.Matches (two.reports (watched.map (·.2))).2 := by
  induction watched generalizing one two with
  | nil => exact ⟨.nil, same⟩
  | cons entry rest ih =>
      obtain ⟨glance, reported⟩ := reportOn_glance same (watches entry List.mem_cons_self)
      obtain ⟨later, kernels⟩ := ih reported fun other member =>
        watches other (List.mem_cons_of_mem entry member)
      have wanes : Wanes one (one.reports ((entry :: rest).map (·.2))).2 := .reports _ one
      refine ⟨?_, kernels⟩
      rw [answers_cons, answers_cons]
      split
      · next seen =>
          split
          · exact .both (glance.wanes wanes) later
          · next unseen =>
              exact .left (glance.wanes wanes) seen (Bool.eq_false_iff.mpr unseen) later
      · next unseen =>
          split
          · next seen => exact .right (glance.wanes wanes) (Bool.eq_false_iff.mpr unseen) seen later
          · exact later

end

end Kernel

/-! ## The pass -/

namespace Site

variable {one two site : Site} {name : Nat → Option Nat} {source : Source} {flags other : Flags}
  {left right : List (Source × Flags)}

theorem serve_concurs (same : Matches one two) (source : Source) (flags : Flags) :
    Concur Matches (one.serve source flags) (two.serve source flags) := by
  cases source with
  | tunnel => exact readTunnel_concurs same
  | channel => exact ⟨rfl, acceptClients_matches same⟩
  | client id => exact serveClient_concurs same id flags

structure Bears (name : Nat → Option Nat) (site : Site) : Prop where
  ordered : site.relay.roster.Ordered
  label : ∀ id label, name id = some label →
    ∀ session ∈ site.relay.roster.sessions, session.id = id → session.label = label

theorem Bears.matches (same : Matches one two) (bears : Bears name one) : Bears name two where
  ordered := same.relay ▸ bears.ordered
  label := same.relay ▸ bears.label

theorem bears_of_sound (sound : Stage.Sound (.rest site))
    (names : ∀ id label, name id = some label → named site.calls id = some label) :
    Bears name site where
  ordered := sound.ordered
  label id label has := (Orderly.of_sound sound).label_eq (names id label has)

theorem serve_either (bears : Bears name site)
    (glance : Glance name site.kernel source flags other) :
    Concur Matches (site.serve source flags) (site.serve source other) := by
  cases glance with
  | same | tunnel | channel => exact ⟨rfl, .refl _⟩
  | @client id label readable writable alsoReadable alsoWritable named reads writes =>
      have own := bears.label id label named
      have reading : Concur Matches (site.serveClient id { readable, writable })
          (site.serveClient id { readable := alsoReadable, writable }) := by
        rcases reads with rfl | silent
        · exact ⟨rfl, .refl _⟩
        · have slack := serveClient_silent bears.ordered own writable silent
          cases readable <;> cases alsoReadable <;>
            first | exact ⟨rfl, .refl _⟩ | exact slack | exact concur_symm slack
      have writing : Concur Matches (site.serveClient id { readable := alsoReadable, writable })
          (site.serveClient id { readable := alsoReadable, writable := alsoWritable }) := by
        rcases writes with rfl | blocked
        · exact ⟨rfl, .refl _⟩
        · have slack := serveClient_blocked bears.ordered own alsoReadable blocked
          cases writable <;> cases alsoWritable <;>
            first | exact ⟨rfl, .refl _⟩ | exact slack | exact concur_symm slack
      exact concur_trans reading writing

/-- Serving a client on which nothing is reported changes nothing. -/
theorem serveClient_unseen (id : Nat) (site : Site) : site.serveClient id {} = (.ok (), site) := by
  unfold serveClient
  split
  · rfl
  · rfl

theorem serve_unseen (bears : Bears name site)
    (glance : Glance name site.kernel source flags other) (seen : flags.any = true)
    (unseen : other.any = false) : Concur Matches (site.serve source flags) (.ok (), site) := by
  have either := serve_either bears glance
  cases glance with
  | same => rw [seen] at unseen; cases unseen
  | tunnel flags other silent => exact readTunnel_silent silent
  | channel flags other quiet => exact ⟨rfl, acceptClients_quiet quiet⟩
  | @client id label readable writable alsoReadable alsoWritable =>
      obtain ⟨rfl, rfl⟩ : alsoReadable = false ∧ alsoWritable = false := by
        simpa [Flags.any] using unseen
      refine concur_trans either ?_
      change Concur Matches (site.serveClient id {}) (.ok (), site)
      rw [serveClient_unseen]
      exact ⟨rfl, .refl site⟩

theorem serveAll_concurs {kernel : Kernel} (glances : Glances name kernel left right)
    (wanes : Wanes kernel one.kernel) (same : Matches one two) (sound : Stage.Sound (.rest one))
    (names : ∀ id label, name id = some label → named one.calls id = some label) :
    Concur Matches (one.serveAll left) (two.serveAll right) := by
  -- A glance at the poll is one for the rest of the pass, as nothing is supplied during it.
  induction glances generalizing one two with
  | nil => exact ⟨rfl, same⟩
  | @both source flags other left right glance _ ih =>
      have bears := bears_of_sound sound names
      have served := concur_trans (serve_either bears (glance.wanes wanes))
        (serve_concurs same source other)
      have path := serve_path one source flags sound.ordered
      unfold serveAll
      generalize one.serve source flags = first at served path ⊢
      generalize two.serve source other = second at served ⊢
      obtain ⟨result, after⟩ := first
      obtain ⟨_, alsoAfter⟩ := second
      obtain ⟨rfl, matching⟩ := served
      cases result with
      | error failure => exact ⟨rfl, matching⟩
      | ok value =>
          exact ih (wanes.trans path.wanes) matching (path.sound sound)
            fun id label has => History.named_suffix path.grows (names id label has)
  | @left source flags other left right glance seen unseen _ ih =>
      have bears := bears_of_sound sound names
      have served := serve_unseen bears (glance.wanes wanes) seen unseen
      have path := serve_path one source flags sound.ordered
      rw [serveAll]
      generalize one.serve source flags = first at served path ⊢
      obtain ⟨result, after⟩ := first
      obtain ⟨rfl, aside⟩ := served
      exact ih (wanes.trans path.wanes) (aside.trans same) (path.sound sound)
        fun id label has => History.named_suffix path.grows (names id label has)
  | @right source flags other left right glance unseen seen _ ih =>
      have bears := (bears_of_sound sound names).matches same
      have served := serve_unseen bears ((glance.wanes wanes).wanes same.kernel.wanes).symm seen
        unseen
      rw [serveAll.eq_2]
      generalize two.serve source other = second at served ⊢
      obtain ⟨result, after⟩ := second
      obtain ⟨rfl, aside⟩ := served
      exact ih wanes (same.trans aside.symm) sound names

/-- Both polls fail, or neither does; then they report alike. -/
theorem ready_concurs (same : Matches one two) (known : one.Known) :
    Matches one.ready.2 two.ready.2 ∧
      ((∃ failure, one.ready.1 = .error failure ∧ two.ready.1 = .error failure) ∨
        ∃ left right, one.ready.1 = .ok left ∧ two.ready.1 = .ok right ∧
          Glances (named one.calls) one.ready.2.kernel left right) := by
  obtain ⟨glances, kernels⟩ := Kernel.reports_glances same.kernel (watched_watches known)
  have polled {made also : Call} (idle : made.isIdle = true) (alsoIdle : also.isIdle = true)
      {first second : Kernel} (reported : first.Matches second) :
      (first.call made).Matches (second.call also) :=
    (Kernel.Matches.idle first idle).trans (reported.trans (.symm (.idle second alsoIdle)))
  unfold ready Kernel.poll
  rw [← same.relay]
  dsimp only
  rw [← kernels.pollFaults]
  cases (one.kernel.reports ((watched one.relay).map (·.2))).2.pollFaults with
  | nil =>
      refine ⟨⟨rfl, polled rfl rfl kernels⟩, .inr ⟨_, _, rfl, rfl, ?_⟩⟩
      exact glances.wanes (.call _ _)
  | cons errno later =>
      have fewer := congrArg (fun kernel : Kernel => { kernel with pollFaults := later })
        kernels.calm
      refine ⟨⟨rfl, polled rfl rfl ⟨fewer, kernels.clients, kernels.record⟩⟩, ?_⟩
      by_cases interrupted : errno = .interrupted
      · simp only [if_pos interrupted]
        exact .inr ⟨_, _, rfl, rfl, .nil⟩
      · simp only [if_neg interrupted]
        exact .inl ⟨_, rfl, rfl⟩

theorem pass_concurs (same : Matches one two) (sound : Stage.Sound (.rest one)) :
    Concur Matches one.pass two.pass := by
  obtain ⟨polled, outcome⟩ := ready_concurs same (known_of_sound sound)
  have path := ready_path one
  unfold pass
  generalize one.ready = first at *
  generalize two.ready = second at *
  obtain ⟨result, after⟩ := first
  obtain ⟨alsoResult, alsoAfter⟩ := second
  rcases outcome with ⟨failure, failed, alsoFailed⟩ | ⟨left, right, passed, alsoPassed, glances⟩
  · cases failed
    cases alsoFailed
    exact ⟨rfl, polled⟩
  · cases passed
    cases alsoPassed
    exact serveAll_concurs glances (.refl _) polled (path.sound sound)
      fun id label has => History.named_suffix path.grows has

end Site
end PacketRelay
