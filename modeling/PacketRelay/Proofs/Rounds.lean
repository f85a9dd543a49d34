import PacketRelay.Proofs.Serving

/-!
Passes and shutdowns in two runs that differ only in what one client does. The
others are watched, and are reported on and served in the same order.
-/

namespace PacketRelay

open Kernel (Call Endpoint Flags Descriptor)
open History (named)

/-! ## Polling -/

theorem Kernel.Endpoint.report_alike {one two : Endpoint} (alike : one.Alike two) :
    (one.report Flags.reading).1 = (two.report Flags.reading).1 ∧
      (one.report Flags.reading).2.Alike (two.report Flags.reading).2 := by
  unfold Endpoint.report
  rw [← alike.forced]
  split
  · exact ⟨rfl, alike.inbound, rfl⟩
  · refine ⟨?_, alike⟩
    simp [Endpoint.readiness, Flags.reading, alike.inbound]

/-- What is watched: a source with its descriptor and what is asked of it. -/
inductive Watches (name : Nat → Option Nat) : Source × Descriptor × Flags → Prop
  | tunnel : Watches name (.tunnel, .tunnel, Flags.reading)
  | channel : Watches name (.channel, .channel, Flags.reading)
  | client {id client : Nat} (flags : Flags) (named : name id = some client) :
      Watches name (.client id, .client client, flags)

def watchedBesides (label : Nat) (entry : Source × Descriptor × Flags) :
    Option (Source × Descriptor × Flags) :=
  if entry.2.1 = .client label then none else some entry

def Source.besides (label : Nat) (name : Nat → Option Nat) (ready : Source × Flags) :
    Option (Source × Flags) :=
  match ready.1 with
  | .client id => if name id = some label then none else some ready
  | .tunnel | .channel => some ready

section

variable {label : Nat} {name : Nat → Option Nat} {entry seen : Source × Descriptor × Flags}

theorem watchedBesides_some (sees : watchedBesides label entry = some seen) :
    entry.2.1 ≠ .client label ∧ entry = seen := by
  unfold watchedBesides at sees
  split at sees
  · cases sees
  · next different => exact ⟨different, Option.some.inj sees⟩

theorem watchedBesides_none (unseen : watchedBesides label entry = none) :
    entry.2.1 = .client label := by
  unfold watchedBesides at unseen
  split at unseen
  · next own => exact own
  · cases unseen

theorem Source.besides_some {ready seen : Source × Flags}
    (sees : Source.besides label name ready = some seen) :
    ready = seen ∧ ∀ id, ready.1 = .client id → name id ≠ some label := by
  obtain ⟨source, flags⟩ := ready
  cases source with
  | tunnel | channel =>
      cases sees
      exact ⟨rfl, by rintro id ⟨⟩⟩
  | client id =>
      unfold Source.besides at sees
      dsimp only at sees
      split at sees
      · cases sees
      · next different =>
          cases sees
          refine ⟨rfl, ?_⟩
          rintro _ ⟨⟩
          exact different

theorem Source.besides_none {ready : Source × Flags}
    (unseen : Source.besides label name ready = none) :
    ∃ id, ready.1 = .client id ∧ name id = some label := by
  obtain ⟨source, flags⟩ := ready
  cases source with
  | tunnel | channel => cases unseen
  | client id =>
      unfold Source.besides at unseen
      dsimp only at unseen
      split at unseen
      · next own => exact ⟨id, rfl, own⟩
      · cases unseen

theorem Watches.besides (watches : Watches name entry) (different : entry.2.1 ≠ .client label)
    (flags : Flags) : Source.besides label name (entry.1, flags) = some (entry.1, flags) := by
  cases watches with
  | tunnel | channel => rfl
  | @client id client _ named =>
      have other : name id ≠ some label := by
        rw [named]
        rintro ⟨⟩
        exact different rfl
      exact if_neg other

theorem Watches.own (watches : Watches name entry) (own : entry.2.1 = .client label)
    (flags : Flags) : Source.besides label name (entry.1, flags) = none := by
  cases watches with
  | tunnel | channel => cases own
  | client _ named =>
      cases own
      exact if_pos named

end

namespace Kernel

variable {label : Nat} {one two : Kernel} {name : Nat → Option Nat}

theorem reportOn_alike (alike : one.Alike label two) {entry : Source × Descriptor × Flags}
    (watches : Watches name entry) (different : entry.2.1 ≠ .client label) :
    (one.reportOn entry.2.1 entry.2.2).1 = (two.reportOn entry.2.1 entry.2.2).1 ∧
      (one.reportOn entry.2.1 entry.2.2).2.Alike label (two.reportOn entry.2.1 entry.2.2).2 := by
  cases watches with
  | tunnel =>
      obtain ⟨same, after⟩ := Endpoint.report_alike alike.tunnel
      exact ⟨same, alike.overTunnel after⟩
  | channel =>
      unfold reportOn
      dsimp only
      rw [← alike.channelForced]
      split
      · have used := alike.change (fun kernel => { kernel with channelForced := none })
          (fun _ => rfl) (fun _ => rfl) (fun _ => rfl) fun _ => rfl
        exact ⟨rfl, used⟩
      · exact ⟨by rw [alike.knocks], alike⟩
  | @client id client =>
      have same := alike.clients client fun own => different (congrArg Descriptor.client own)
      unfold reportOn
      dsimp only
      rw [same]
      exact ⟨rfl, alike.setClient client _⟩

theorem reportOn_besides (kernel : Kernel) {entry : Source × Descriptor × Flags}
    (own : entry.2.1 = .client label) :
    (kernel.reportOn entry.2.1 entry.2.2).2.Alike label kernel := by
  rw [own]
  exact .own kernel label _

def answers (watched : List (Source × Descriptor × Flags)) (kernel : Kernel) :
    List (Source × Flags) :=
  ((watched.map (·.1)).zip (kernel.reports (watched.map (·.2))).1).filter (·.2.any)

theorem answers_cons (entry : Source × Descriptor × Flags)
    (rest : List (Source × Descriptor × Flags)) (kernel : Kernel) :
    answers (entry :: rest) kernel =
      if (kernel.reportOn entry.2.1 entry.2.2).1.any then
        (entry.1, (kernel.reportOn entry.2.1 entry.2.2).1) ::
          answers rest (kernel.reportOn entry.2.1 entry.2.2).2
      else answers rest (kernel.reportOn entry.2.1 entry.2.2).2 := by
  simp [answers, reports, List.filter_cons]

theorem answers_watched {watched : List (Source × Descriptor × Flags)} {kernel : Kernel}
    {ready : Source × Flags} (member : ready ∈ answers watched kernel) :
    ∃ entry ∈ watched, entry.1 = ready.1 := by
  obtain ⟨source, flags⟩ := ready
  have zipped := (List.mem_filter.mp member).1
  exact List.mem_map.mp (List.of_mem_zip zipped).1

theorem reports_alike {left right : List (Source × Descriptor × Flags)}
    (watched : Interleaved (watchedBesides label) left right) (alike : one.Alike label two)
    (watches : ∀ entry ∈ left, Watches name entry)
    (alsoWatches : ∀ entry ∈ right, Watches name entry) :
    Interleaved (Source.besides label name) (answers left one) (answers right two) ∧
      (one.reports (left.map (·.2))).2.Alike label (two.reports (right.map (·.2))).2 := by
  -- Reports are made in the order watched; on the client's own stream they may differ.
  induction watched generalizing one two with
  | nil => exact ⟨.nil, alike⟩
  | @both entry other seen left right sees alsoSees _ ih =>
      obtain ⟨different, rfl⟩ := watchedBesides_some sees
      obtain ⟨_, rfl⟩ := watchedBesides_some alsoSees
      have entryWatches := watches _ List.mem_cons_self
      obtain ⟨same, after⟩ := reportOn_alike alike entryWatches different
      obtain ⟨later, kernels⟩ := ih after
        (fun entry member => watches entry (List.mem_cons_of_mem _ member))
        (fun entry member => alsoWatches entry (List.mem_cons_of_mem _ member))
      refine ⟨?_, kernels⟩
      rw [answers_cons, answers_cons, ← same]
      split
      · exact .both (entryWatches.besides different _) (entryWatches.besides different _) later
      · exact later
  | @left entry left right unseen _ ih =>
      have own := watchedBesides_none unseen
      have entryWatches := watches _ List.mem_cons_self
      obtain ⟨later, kernels⟩ := ih ((reportOn_besides one own).trans alike)
        (fun entry member => watches entry (List.mem_cons_of_mem _ member)) alsoWatches
      refine ⟨?_, kernels⟩
      rw [answers_cons]
      split
      · exact .left (entryWatches.own own _) later
      · exact later
  | @right entry left right unseen _ ih =>
      have own := watchedBesides_none unseen
      have entryWatches := alsoWatches _ List.mem_cons_self
      obtain ⟨later, kernels⟩ := ih (alike.trans (reportOn_besides two own).symm) watches
        (fun entry member => alsoWatches entry (List.mem_cons_of_mem _ member))
      refine ⟨?_, kernels⟩
      rw [answers_cons entry]
      split
      · exact .right (entryWatches.own own _) later
      · exact later

theorem poll_besides (label timeout : Nat) (watched : List (Descriptor × Flags)) (kernel : Kernel)
    (result : Except Errno (List Flags)) :
    (kernel.call (.poll timeout watched result)).Alike label kernel :=
  (Alike.refl label kernel).withRecord (.quiet [_] rfl rfl (by simp [Call.swayedBy])
    (by simp [Call.submits]))

end Kernel

namespace Site

variable {label : Nat} {one two : Site}

theorem watched_watches {site : Site} (known : site.Known) :
    ∀ entry ∈ watched site.relay, Watches (named site.calls) entry := by
  intro entry member
  simp only [watched, List.mem_append, List.mem_map] at member
  rcases member with (tunnel | channel) | ⟨session, inside, rfl⟩
  · split at tunnel
    · rw [List.mem_singleton.mp tunnel]
      exact .tunnel
    · cases tunnel
  · split at channel
    · rw [List.mem_singleton.mp channel]
      exact .channel
    · cases channel
  · exact .client _ (known session inside)

theorem watched_alike (alike : Alike label one two) :
    Interleaved (watchedBesides label) (watched one.relay) (watched two.relay) := by
  have clients (sessions : List Session) :
      (sessions.map fun session => (Source.client session.id, Descriptor.client session.label,
        watchedFlags session)).filterMap (watchedBesides label) =
      (others label sessions).map fun session => (Source.client session.id,
        Descriptor.client session.label, watchedFlags session) := by
    induction sessions with
    | nil => rfl
    | cons session rest ih =>
        by_cases own : session.label = label
        · simpa [others, Session.besides, watchedBesides, own] using ih
        · simpa [others, Session.besides, watchedBesides, own, Session.bare, watchedFlags,
            Session.wantsWrite] using ih
  apply Interleaved.of_filterMap
  simp only [watched, List.filterMap_append, clients, alike.others, alike.tunnel, alike.channel]

theorem ready_alike (alike : Alike label one two) (known : one.Known) (alsoKnown : two.Known) :
    Alike label one.ready.2 two.ready.2 ∧
      ∀ sources also, one.ready.1 = .ok sources → two.ready.1 = .ok also →
        Interleaved (Source.besides label (named one.calls)) sources also := by
  have names : named two.calls = named one.calls :=
    funext fun id => (alike.kernel.record.named id).symm
  have alsoWatches := watched_watches alsoKnown
  rw [names] at alsoWatches
  obtain ⟨sources, kernels⟩ := Kernel.reports_alike (watched_alike alike) alike.kernel
    (watched_watches known) alsoWatches
  -- The faults that polls will meet are the same, so both polls fail or neither does.
  unfold ready Kernel.poll
  dsimp only
  rw [← kernels.pollFaults]
  cases (one.kernel.reports ((watched one.relay).map (·.2))).2.pollFaults with
  | nil =>
      constructor
      · exact alike.withKernel ((Kernel.poll_besides label _ _ _ _).trans
          (kernels.trans (Kernel.poll_besides label _ _ _ _).symm))
      · rintro first second ⟨⟩ ⟨⟩
        exact sources
  | cons errno later =>
      constructor
      · have fewer := kernels.change (fun kernel => { kernel with pollFaults := later })
          (fun _ => rfl) (fun _ => rfl) (fun _ => rfl) fun _ => rfl
        exact alike.withKernel ((Kernel.poll_besides label _ _ _ _).trans
          (fewer.trans (Kernel.poll_besides label _ _ _ _).symm))
      · intro first second isFirst isSecond
        by_cases interrupted : errno = .interrupted
        · simp only [if_pos interrupted] at isFirst isSecond
          cases isFirst
          cases isSecond
          exact .nil
        · simp only [if_neg interrupted] at isFirst
          cases isFirst

/-! ## The pass -/

theorem ready_named {site : Site} (known : site.Known) {sources : List (Source × Flags)}
    (made : site.ready.1 = .ok sources) :
    ∀ source ∈ sources, ∀ id, source.1 = .client id →
      ∃ client, named site.calls id = some client := by
  have listed : ∀ source ∈ sources, source ∈ Kernel.answers (watched site.relay) site.kernel := by
    unfold ready Kernel.poll at made
    dsimp only at made
    split at made
    · next flags kernel polled =>
        split at polled
        · cases polled
          cases made
          exact fun _ member => member
        · cases polled
    · split at made
      · cases made
        simp
      · cases made
  intro source member id isClient
  obtain ⟨entry, inside, same⟩ := Kernel.answers_watched (listed source member)
  have watches := watched_watches known entry inside
  rw [isClient] at same
  cases watches with
  | tunnel | channel => cases same
  | client flags name =>
      cases same
      exact ⟨_, name⟩

theorem serve_alike (alike : Alike label one two) (sound : Stage.Sound (.rest one))
    (alsoSound : Stage.Sound (.rest two)) {source : Source} {flags : Flags}
    (other : ∀ id, source = .client id →
      ∃ client, named one.calls id = some client ∧ client ≠ label)
    (passed : (one.serve source flags).1 = .ok ())
    (alsoPassed : (two.serve source flags).1 = .ok ()) :
    Alike label (one.serve source flags).2 (two.serve source flags).2 := by
  cases source with
  | tunnel => exact readTunnel_alike alike sound alsoSound passed alsoPassed
  | channel => exact acceptClients_alike alike
  | client id =>
      obtain ⟨client, name, different⟩ := other id rfl
      exact serveClient_alike alike (.of_sound sound) (.of_sound alsoSound) name different flags
        passed alsoPassed

/-- A list of sources is served by serving the first and then the rest. -/
theorem serveAll_cons {site : Site} {source : Source × Flags} {rest : List (Source × Flags)}
    (passed : (site.serveAll (source :: rest)).1 = .ok ()) :
    (site.serve source.1 source.2).1 = .ok () ∧
      site.serveAll (source :: rest) = (site.serve source.1 source.2).2.serveAll rest := by
  obtain ⟨source, flags⟩ := source
  rw [serveAll] at passed ⊢
  cases served : site.serve source flags with
  | mk result after =>
      rw [served] at passed
      cases result with
      | error failure => cases passed
      | ok value => exact ⟨rfl, rfl⟩

theorem serveAll_alike {name : Nat → Option Nat} {left right : List (Source × Flags)}
    (sources : Interleaved (Source.besides label name) left right) (alike : Alike label one two)
    (sound : Stage.Sound (.rest one)) (alsoSound : Stage.Sound (.rest two))
    (hasName : ∀ source ∈ left, ∀ id, source.1 = .client id → ∃ client, name id = some client)
    (names : ∀ id client, name id = some client → named one.calls id = some client)
    (passed : (one.serveAll left).1 = .ok ()) (alsoPassed : (two.serveAll right).1 = .ok ()) :
    Alike label (one.serveAll left).2 (two.serveAll right).2 := by
  induction sources generalizing one two with
  | nil => exact alike
  | @both first source seen left right sees alsoSees _ ih =>
      obtain ⟨rfl, others⟩ := Source.besides_some sees
      obtain ⟨rfl, _⟩ := Source.besides_some alsoSees
      obtain ⟨served, later⟩ := serveAll_cons passed
      obtain ⟨alsoServed, alsoLater⟩ := serveAll_cons alsoPassed
      have path := serve_path one source.1 source.2 sound.ordered
      have alsoPath := serve_path two source.1 source.2 alsoSound.ordered
      have other : ∀ id, source.1 = .client id →
          ∃ client, named one.calls id = some client ∧ client ≠ label := by
        intro id isClient
        obtain ⟨client, has⟩ := hasName source List.mem_cons_self id isClient
        refine ⟨client, names id client has, ?_⟩
        rintro rfl
        exact others id isClient has
      rw [later] at passed ⊢
      rw [alsoLater] at alsoPassed ⊢
      exact ih (serve_alike alike sound alsoSound other served alsoServed)
        (path.sound sound) (alsoPath.sound alsoSound)
        (fun source member => hasName source (List.mem_cons_of_mem _ member))
        (fun id client has => History.named_suffix path.grows (names id client has))
        passed alsoPassed
  | @left source left right unseen _ ih =>
      -- Only the client is served in one run and not in the other.
      obtain ⟨id, isClient, own⟩ := Source.besides_none unseen
      obtain ⟨served, later⟩ := serveAll_cons passed
      have path := serve_path one source.1 source.2 sound.ordered
      have aside : Alike label (one.serve source.1 source.2).2 one := by
        rw [isClient]
        exact serveClient_besides (.of_sound sound) (names id label own) source.2
      rw [later] at passed ⊢
      exact ih (aside.trans alike) (path.sound sound) alsoSound
        (fun source member => hasName source (List.mem_cons_of_mem _ member))
        (fun id client has => History.named_suffix path.grows (names id client has))
        passed alsoPassed
  | @right source left right unseen _ ih =>
      obtain ⟨id, isClient, own⟩ := Source.besides_none unseen
      obtain ⟨served, later⟩ := serveAll_cons alsoPassed
      have path := serve_path two source.1 source.2 alsoSound.ordered
      have aside : Alike label (two.serve source.1 source.2).2 two := by
        rw [isClient]
        refine serveClient_besides (.of_sound alsoSound) ?_ source.2
        exact (alike.kernel.record.named id).symm.trans (names id label own)
      rw [later] at alsoPassed ⊢
      exact ih (alike.trans aside.symm) sound (path.sound alsoSound) hasName names passed
        alsoPassed

theorem pass_alike (alike : Alike label one two) (sound : Stage.Sound (.rest one))
    (alsoSound : Stage.Sound (.rest two)) (passed : one.pass.1 = .ok ())
    (alsoPassed : two.pass.1 = .ok ()) : Alike label one.pass.2 two.pass.2 := by
  have known := known_of_sound sound
  obtain ⟨polled, sources⟩ := ready_alike alike known (known_of_sound alsoSound)
  have path := ready_path one
  have alsoPath := ready_path two
  have hasName {sources : List (Source × Flags)} := @ready_named _ known sources
  unfold pass at passed alsoPassed ⊢
  generalize one.ready = first at *
  generalize two.ready = second at *
  obtain ⟨result, left⟩ := first
  obtain ⟨alsoResult, right⟩ := second
  cases result with
  | error failure => cases passed
  | ok ready =>
      cases alsoResult with
      | error failure => cases alsoPassed
      | ok alsoReady =>
          exact serveAll_alike (sources _ _ rfl rfl) polled (path.sound sound)
            (alsoPath.sound alsoSound) (hasName rfl)
            (fun id client has => History.named_suffix path.grows has) passed alsoPassed

/-! ## Shutting down -/

theorem closeTunnel_alike (alike : Alike label one two) :
    Alike label one.closeTunnel two.closeTunnel := by
  unfold closeTunnel
  rw [← alike.tunnel]
  cases one.relay.tunnel with
  | none => exact alike
  | some name =>
      have changed := alike.change (fun relay => { relay with tunnel := none }) fun _ => rfl
      exact changed.withKernel ((alike.kernel.note rfl rfl).call (.close .tunnel) rfl)

theorem absorbAll_alike {left right : List Session}
    (sessions : Interleaved (Session.besides label) left right) (alike : Alike label one two) :
    Alike label (left.foldl absorb one) (right.foldl absorb two) := by
  induction sessions generalizing one two with
  | nil => exact alike
  | both sees alsoSees _ ih =>
      obtain ⟨_, bare⟩ := Session.besides_some sees
      obtain ⟨_, alsoBare⟩ := Session.besides_some alsoSees
      obtain ⟨n, same⟩ := Session.eq_of_bare (bare.trans alsoBare.symm)
      exact ih (absorb_alike alike (by rw [same]))
  | left unseen _ ih => exact ih ((absorb_besides one (Session.besides_none unseen)).trans alike)
  | right unseen _ ih =>
      exact ih (alike.trans (absorb_besides two (Session.besides_none unseen)).symm)

theorem closeSessions_alike (alike : Alike label one two) :
    Alike label one.closeSessions two.closeSessions :=
  absorbAll_alike (.of_filterMap alike.others) (alike.putBack rfl alike.kernel)

theorem closeChannel_alike (alike : Alike label one two) :
    Alike label one.closeChannel two.closeChannel := by
  obtain ⟨closed, left, new, own, _, outcome⟩ :=
    Channel.close_spec one.relay.channel one.kernel.files one.kernel.faults
  have silent : ∀ call ∈ new.calls, call.submits = false := by
    intro call member
    rcases own call member with rfl | ⟨path, failure, rfl⟩
    · rfl
    · rfl
  unfold closeChannel
  rw [← alike.channel, outcome one.kernel rfl rfl,
    outcome two.kernel alike.kernel.files.symm alike.kernel.faults.symm]
  have changed := alike.change (fun relay => { relay with channel := closed }) fun _ => rfl
  have removed := alike.kernel.change (fun kernel => { kernel with files := left })
    (fun _ => rfl) (fun _ => rfl) (fun _ => rfl) fun _ => rfl
  exact changed.withKernel (removed.withRecord (alike.kernel.record.same new silent))

/-- Closing everything is all that a shutdown does, also when all is closed already. -/
theorem shutdown_closes (label : Nat) (site : Site) :
    Alike label site.shutdown
      { site with relay.running := false }.closeTunnel.closeSessions.closeChannel := by
  unfold shutdown
  dsimp only
  split
  · next ended =>
      -- All is closed already, and closing it again changes nothing.
      simp only [isShutDown, Bool.and_eq_true, Bool.not_eq_true', Option.isNone_iff_eq_none,
        List.isEmpty_iff] at ended
      obtain ⟨⟨tunnel, sessions⟩, closed⟩ := ended
      obtain ⟨⟨_, channel, ⟨_, issued⟩, _, _, _, _, _, _, _, _, _⟩, kernel⟩ := site
      cases tunnel
      cases sessions
      have unchanged : channel.close kernel = (channel, kernel) := if_neg (by simpa using closed)
      simp only [closeTunnel, closeSessions, Roster.drain, List.foldl_nil, closeChannel, unchanged]
      exact .refl label _
  · exact .noted label _ rfl

theorem shutdown_alike (alike : Alike label one two) :
    Alike label one.shutdown two.shutdown := by
  have stopped := alike.change (fun relay => { relay with running := false }) fun _ => rfl
  have closed := closeChannel_alike (closeSessions_alike (closeTunnel_alike stopped))
  exact (shutdown_closes label one).trans (closed.trans (shutdown_closes label two).symm)

end Site
end PacketRelay
