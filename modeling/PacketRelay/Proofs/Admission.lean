import PacketRelay.Proofs.Intake
import PacketRelay.Proofs.Upkeep

/-!
How connections get in. Main statement: they leave the queue in the order in which
they came, each gets a session and the next id or, if it cannot be switched to
non-blocking, is closed, and a pass that serves the channel goes on until the queue
is empty or an error stops it.
-/

namespace PacketRelay

open Kernel (Call Deed Knock)
open Kernel.Knock (served admitted?)
open History (accepted acceptedBy enrolled enrolledBy)

/-! ## What comes into the queue -/

def Kernel.Deed.knocks (kernel : Kernel) : Deed → List Knock
  | .connect count fault =>
      (List.range' (kernel.connected + 1) count).map fun label => .connection label fault
  | .refuse errno => [.failure errno]
  | _ => []

theorem Kernel.undergo_knocks (deed : Deed) (kernel : Kernel) :
    (kernel.undergo deed).knocks = kernel.knocks ++ deed.knocks kernel := by
  cases deed with
  | connect | refuse => rfl
  | _ => exact (List.append_nil _).symm

def Move.knocks (site : Site) : Move → List Knock
  | .world deed => deed.knocks site.kernel
  | .pass | .shutdown => []

namespace Site

def arrivals : List Move → Site → List Knock
  | [], _ => []
  | made :: rest, site => made.knocks site ++ (site.move made).2.arrivals rest

/-! ## What becomes of it -/

structure Settles (arrived taken : List Knock) (before after : Site) : Prop where
  queue : before.kernel.knocks ++ arrived = taken ++ after.kernel.knocks
  grows : before.calls <:+ after.calls
  accepted : accepted after.calls = accepted before.calls ++ taken.filterMap Knock.label?
  enrolled : enrolled after.calls = enrolled before.calls ++ taken.filterMap admitted?
  refused : ∀ label errno, .connection label (some errno) ∈ taken →
    [.close (.client label), .unblock (.client label) (some errno), .accept (.ok label)] <:+:
      after.calls

namespace Settles

variable {arrived taken more others : List Knock} {before middle after : Site}

theorem aside (new : List Call) (calls : after.calls = new ++ before.calls)
    (silent : ∀ call ∈ new, acceptedBy call = none ∧ enrolledBy call = none)
    (knocks : after.kernel.knocks = before.kernel.knocks ++ arrived) :
    Settles arrived [] before after where
  queue := knocks.symm
  grows := ⟨new, calls.symm⟩
  accepted := by
    have nobody := History.accepted_eq_nil new fun call member => (silent call member).1
    rw [calls, History.accepted_append, nobody]
    rfl
  enrolled := by
    have nobody := History.enrolled_eq_nil new fun call member => (silent call member).2
    rw [calls, History.enrolled_append, nobody]
    rfl
  refused := by simp

theorem refl (site : Site) : Settles [] [] site site :=
  aside [] rfl (by simp) (List.append_nil _).symm

theorem trans (first : Settles arrived taken before middle)
    (second : Settles more others middle after) :
    Settles (arrived ++ more) (taken ++ others) before after where
  queue := by
    rw [← List.append_assoc, first.queue, List.append_assoc, second.queue, List.append_assoc]
  grows := first.grows.trans second.grows
  accepted := by
    rw [second.accepted, first.accepted, List.filterMap_append, List.append_assoc]
  enrolled := by
    rw [second.enrolled, first.enrolled, List.filterMap_append, List.append_assoc]
  refused label errno member := by
    rcases List.mem_append.mp member with sooner | later
    · exact (first.refused label errno sooner).trans second.grows.isInfix
    · exact second.refused label errno later

end Settles

theorem Intake.settles {before after : Site} (intake : Intake before after) :
    Settles [] (served before.kernel.knocks) before after where
  queue := (List.append_nil _).trans intake.burst.split
  grows := ⟨_, intake.calls.symm⟩
  accepted := intake.accepted_eq
  enrolled := intake.enrolled_eq
  refused _ _ := intake.refused

end Site

/-- Where no client comes twice, one that is refused is not let in as well. -/
theorem Kernel.Knock.refused_not_admitted {queue : List Knock} {label : Nat} {errno : Errno}
    (once : (queue.filterMap Knock.label?).Nodup)
    (refused : .connection label (some errno) ∈ queue) :
    label ∉ queue.filterMap admitted? := by
  obtain ⟨sooner, later, rfl⟩ := List.append_of_mem refused
  have known (part : List Knock) (listed : label ∈ part.filterMap admitted?) :
      label ∈ part.filterMap Knock.label? := by
    obtain ⟨knock, member, isAdmitted⟩ := List.mem_filterMap.mp listed
    refine List.mem_filterMap.mpr ⟨knock, member, ?_⟩
    cases knock with
    | connection other fault =>
        cases fault with
        | none => exact isAdmitted
        | some errno => cases isAdmitted
    | failure errno => cases isAdmitted
  have labels : (sooner ++ .connection label (some errno) :: later).filterMap Knock.label? =
      sooner.filterMap Knock.label? ++ label :: later.filterMap Knock.label? := by
    rw [List.filterMap_append]
    rfl
  rw [labels, List.perm_middle.nodup_iff, List.nodup_cons, List.mem_append] at once
  rw [List.filterMap_append, List.mem_append]
  rintro (before | after)
  · exact once.1 (.inl (known sooner before))
  · exact once.1 (.inr (known later after))

/-! ## Visits -/

theorem Kernel.Call.silent_of_serves {own : Kernel.Descriptor} {call : Call}
    (serves : call.serves own = true) (aside : own ≠ .channel) :
    acceptedBy call = none ∧ enrolledBy call = none := by
  cases own with
  | channel => exact absurd rfl aside
  | tunnel | client => cases call <;> first | exact ⟨rfl, rfl⟩ | cases serves

namespace Site

theorem Confined.settles {own : Kernel.Descriptor} {before after : Site}
    (confined : Confined own before after) (aside : own ≠ .channel) :
    Settles [] [] before after := by
  obtain ⟨new, calls, serve⟩ := confined.calls
  have knocks : after.kernel.knocks = before.kernel.knocks :=
    Sum.inr.inj (confined.queues .channel aside.symm)
  refine .aside new calls (fun call member => ?_) (knocks.trans (List.append_nil _).symm)
  exact Call.silent_of_serves (serve call member) aside

end Site

def Visit.taken (visit : Visit) : List Knock :=
  if visit.prompt.source = .channel then served visit.before.kernel.knocks else []

structure Visit.Takes (visit : Visit) : Prop where
  settles : Site.Settles [] visit.taken visit.before visit.after
  intake : visit.prompt.source = .channel → Site.Intake visit.before visit.after

theorem Visit.Takes.aside {visit : Visit} (other : visit.prompt.source ≠ .channel)
    (settles : Site.Settles [] [] visit.before visit.after) : visit.Takes where
  settles := by
    rw [Visit.taken, if_neg other]
    exact settles
  intake own := absurd own other

namespace Site

variable {site last : Site}

theorem visit_takes {prompt : Prompt} (sound : Stage.Sound (.rest site))
    (known : prompt.Known site) : (site.visit prompt).Takes := by
  have proper := visit_proper sound known
  cases known with
  | channel listening =>
      have intake := acceptClients_intake listening
      exact ⟨intake.settles, fun _ => intake⟩
  | tunnel present => exact .aside (by rintro ⟨⟩) (proper.confined.settles (by rintro ⟨⟩))
  | client present name => exact .aside (by rintro ⟨⟩) (proper.confined.settles (by rintro ⟨⟩))

theorem visitAll_takes {prompts : List Prompt} (accounted : site.Accounted)
    (known : ∀ prompt ∈ prompts, prompt.Known site) :
    ∀ visit ∈ site.visitAll prompts,
      visit.Takes ∧ visit.before.Accounted ∧ visit.after.Accounted := by
  induction prompts generalizing site with
  | nil => simp [visitAll]
  | cons prompt rest ih =>
      have path := serve_path site prompt.source prompt.flags accounted.sound.ordered
      have first : (site.visit prompt).Takes ∧ (site.visit prompt).before.Accounted ∧
          (site.visit prompt).after.Accounted :=
        ⟨visit_takes accounted.sound (known prompt List.mem_cons_self), accounted,
          accounted.path path⟩
      have later := ih (accounted.path path) fun other member =>
        (known other (List.mem_cons_of_mem prompt member)).later
          (serve_evolves prompt.source prompt.flags site) path.grows
      intro visit member
      simp only [visitAll] at member
      split at member
      · rcases List.mem_cons.mp member with rfl | inside
        · exact first
        · exact later visit inside
      · rw [List.mem_singleton.mp member]
        exact first

/-! ## Walks -/

namespace Walk

variable {visits : List Visit} {result : Except Failure Unit}

theorem settles (walk : Walk site visits result last) (takes : ∀ visit ∈ visits, visit.Takes) :
    Settles [] (visits.flatMap Visit.taken) site last := by
  induction walk with
  | done site => exact .refl site
  | @ended visit failure failed =>
      have only : [visit].flatMap Visit.taken = visit.taken := List.append_nil _
      exact only ▸ (takes visit List.mem_cons_self).settles
  | @on visit later result last passed rest ih =>
      obtain ⟨first, others⟩ := List.forall_mem_cons.mp takes
      exact first.settles.trans (ih others)

/-- While the channel is not visited nothing is taken. -/
theorem aside (walk : Walk site visits result last) (takes : ∀ visit ∈ visits, visit.Takes)
    (others : ∀ visit ∈ visits, visit.prompt.source ≠ .channel) : Settles [] [] site last := by
  have nothing : visits.flatMap Visit.taken = [] :=
    List.flatMap_eq_nil_iff.mpr fun visit member => if_neg (others visit member)
  exact nothing ▸ walk.settles takes

/-- The channel is visited once at most, so nothing is taken before that visit and after it. -/
theorem around (walk : Walk site visits result last) (takes : ∀ visit ∈ visits, visit.Takes)
    (apart : visits.Pairwise (·.prompt.source ≠ ·.prompt.source)) {visit : Visit}
    (member : visit ∈ visits) (own : visit.prompt.source = .channel) :
    Settles [] [] site visit.before ∧ Settles [] [] visit.after last := by
  induction walk with
  | done => cases member
  | @ended only failure failed =>
      obtain rfl := List.mem_singleton.mp member
      exact ⟨.refl _, .refl _⟩
  | @on first later result last passed rest ih =>
      obtain ⟨firstTakes, takesLater⟩ := List.forall_mem_cons.mp takes
      obtain ⟨differs, laterApart⟩ := List.pairwise_cons.mp apart
      rcases List.mem_cons.mp member with rfl | inside
      · have others : ∀ other ∈ later, other.prompt.source ≠ .channel := fun other listed same =>
          differs other listed (own.trans same.symm)
        exact ⟨.refl _, rest.aside takesLater others⟩
      · obtain ⟨before, after⟩ := ih takesLater laterApart inside
        have other : first.prompt.source ≠ .channel := fun same =>
          differs visit inside (same.trans own.symm)
        have firstSettles := firstTakes.settles
        rw [Visit.taken, if_neg other] at firstSettles
        exact ⟨firstSettles.trans before, after⟩

end Walk

/-! ## A pass -/

structure Unattended (before after : Site) : Prop extends Settles [] [] before after where
  issued : after.relay.roster.issued = before.relay.roster.issued
  connections : after.relay.totals.connections = before.relay.totals.connections

theorem Settles.unattended {before after : Site} (settles : Settles [] [] before after)
    (start : before.Accounted) (finish : after.Accounted) : Unattended before after where
  toSettles := settles
  issued := by
    rw [finish.issued, start.issued, settles.enrolled, List.filterMap_nil, List.append_nil]
  connections := by
    rw [finish.connections, start.connections, settles.enrolled, List.filterMap_nil,
      List.append_nil]

structure Reception (site : Site) : Prop where
  /-- If the channel is served, then nothing gets in before that and nothing after. -/
  attended : ∀ visit ∈ site.visits, visit.prompt.source = .channel →
    Unattended site visit.before ∧ Intake visit.before visit.after ∧
      Unattended visit.after site.pass.2
  unattended : (∀ visit ∈ site.visits, visit.prompt.source ≠ .channel) →
    Unattended site site.pass.2

theorem polled_settles (site : Site) : Settles [] [] site site.polled := by
  have knocks := Sum.inr.inj (site.polled_queue .channel)
  refine .aside [.poll ..] site.polled_calls ?_ (knocks.trans (List.append_nil _).symm)
  simp [acceptedBy, enrolledBy]

namespace Reachable

theorem polled_accounted (reachable : site.Reachable) : site.polled.Accounted := by
  have ready : site.ready.2 = site.polled := congrArg Prod.snd site.ready_eq
  exact ready ▸ reachable.accounted.path (ready_path site)

theorem visits_take (reachable : site.Reachable) : ∀ visit ∈ site.visits,
    visit.Takes ∧ visit.before.Accounted ∧ visit.after.Accounted := by
  obtain ⟨answers, _, visited, _⟩ := site.visits_walk
  rw [visited]
  exact visitAll_takes reachable.polled_accounted fun prompt member =>
    (prompts_known reachable answers prompt member).later (.refl _) site.polled_settles.grows

theorem pass_settles (reachable : site.Reachable) : ∃ taken, Settles [] taken site site.pass.2 := by
  obtain ⟨_, _, _, walk⟩ := site.visits_walk
  have settles := walk.settles fun visit member => (reachable.visits_take visit member).1
  exact ⟨_, site.polled_settles.trans settles⟩

theorem reception (reachable : site.Reachable) : site.Reception := by
  obtain ⟨_, _, _, walk⟩ := site.visits_walk
  have takes : ∀ visit ∈ site.visits, visit.Takes := fun visit member =>
    (reachable.visits_take visit member).1
  have apart : site.visits.Pairwise (·.prompt.source ≠ ·.prompt.source) :=
    (visits_ordered reachable).imp fun below same => Nat.ne_of_lt below (congrArg Source.rank same)
  constructor
  · intro visit member own
    obtain ⟨taking, before, after⟩ := reachable.visits_take visit member
    obtain ⟨sooner, later⟩ := walk.around takes apart member own
    exact ⟨(site.polled_settles.trans sooner).unattended reachable.accounted before,
      taking.intake own, later.unattended after reachable.pass.accounted⟩
  · intro others
    exact (site.polled_settles.trans (walk.aside takes others)).unattended reachable.accounted
      reachable.pass.accounted

end Reachable

/-! ## A run -/

theorem Settles.marked {before after : Site} (calls : after.calls = before.calls)
    (knocks : after.kernel.knocks = before.kernel.knocks) : Settles [] [] before after :=
  .aside [] calls (by simp) (knocks.trans (List.append_nil _).symm)

theorem Settles.closed {before after : Site} (new : List Call)
    (calls : after.calls = new ++ before.calls)
    (closing : ∀ call ∈ new, (∃ descriptor, call = .close descriptor) ∨
      ∃ path failure, call = .removeFile path failure)
    (knocks : after.kernel.knocks = before.kernel.knocks) : Settles [] [] before after := by
  refine .aside new calls (fun call member => ?_) (knocks.trans (List.append_nil _).symm)
  rcases closing call member with ⟨descriptor, rfl⟩ | ⟨path, failure, rfl⟩ <;> exact ⟨rfl, rfl⟩

theorem closeTunnel_settles (site : Site) : Settles [] [] site site.closeTunnel := by
  unfold closeTunnel
  split
  · exact .refl site
  · exact .closed [.close .tunnel] rfl (by simp) rfl

theorem closeSessions_settles (site : Site) : Settles [] [] site site.closeSessions := by
  have absorbed (sessions : List Session) (site : Site) :
      Settles [] [] site (sessions.foldl absorb site) := by
    induction sessions generalizing site with
    | nil => exact .refl site
    | cons session rest ih =>
        have first : Settles [] [] site (site.absorb session) :=
          .closed [.close (.client session.label)] rfl (by simp) rfl
        exact first.trans (ih _)
  have drained : Settles [] [] site { site with relay.roster := site.relay.roster.drain.2 } :=
    .marked rfl rfl
  exact drained.trans (absorbed _ _)

theorem closeChannel_settles (site : Site) : Settles [] [] site site.closeChannel := by
  obtain ⟨closed, left, new, own, _, made⟩ := site.closeChannel_spec
  rw [made]
  refine .closed new.calls rfl (fun call member => ?_) rfl
  rcases own call member with rfl | isRemoval
  · exact .inl ⟨_, rfl⟩
  · exact .inr isRemoval

theorem shutdown_settles (site : Site) : Settles [] [] site site.shutdown := by
  have stopped : Settles [] [] site { site with relay.running := false } := .marked rfl rfl
  unfold shutdown
  dsimp only
  split
  · exact stopped
  · have closed := ((stopped.trans (closeTunnel_settles _)).trans (closeSessions_settles _)).trans
      (closeChannel_settles _)
    exact closed.trans (.marked rfl rfl)

theorem move_settles (reachable : site.Reachable) (made : Move) :
    ∃ taken, Settles (made.knocks site) taken site (site.move made).2 := by
  cases made with
  | world deed =>
      have calls := congrArg Record.calls (Kernel.undergo_record deed site.kernel)
      exact ⟨[], .aside [] calls (by simp) (Kernel.undergo_knocks deed site.kernel)⟩
  | pass => exact reachable.pass_settles
  | shutdown => exact ⟨[], site.shutdown_settles⟩

theorem play_settles (reachable : site.Reachable) (moves : List Move) :
    ∃ taken, Settles (site.arrivals moves) taken site (site.play moves) := by
  induction moves generalizing site with
  | nil => exact ⟨[], .refl site⟩
  | cons made rest ih =>
      obtain ⟨taken, settles⟩ := move_settles reachable made
      obtain ⟨more, settlesLater⟩ := ih (reachable.moved made)
      exact ⟨taken ++ more, settles.trans settlesLater⟩

/-- What has become of all that has come into the queue since the relay was opened. -/
structure Admitted (arrived departed : List Knock) (site : Site) : Prop where
  /-- The first to come is the first to leave, and what has not left is still there. -/
  queue : arrived = departed ++ site.kernel.knocks
  once : (arrived.filterMap Knock.label?).Nodup
  accepted : accepted site.calls = departed.filterMap Knock.label?
  enrolled : enrolled site.calls = departed.filterMap admitted?
  issued : site.relay.roster.issued = (departed.filterMap admitted?).length
  connections : site.relay.totals.connections = (departed.filterMap admitted?).length
  /-- The clients on the roster are among those, and their ids say which they are. -/
  named : ∀ session ∈ site.relay.roster.sessions,
    0 < session.id ∧ (departed.filterMap admitted?)[session.id - 1]? = some session.label
  /-- Whoever could not be switched to non-blocking was closed at once. -/
  refused : ∀ label errno, .connection label (some errno) ∈ departed →
    label ∉ departed.filterMap admitted? ∧
    [.close (.client label), .unblock (.client label) (some errno), .accept (.ok label)] <:+:
      site.calls

theorem Reachable.labels_nodup (reachable : site.Reachable) :
    (accepted site.calls ++ site.kernel.waiting).Nodup := by
  obtain ⟨frontier, numbered⟩ := reachable.sound.numbered
  refine List.nodup_append.mpr ⟨?_, numbered.waiting.imp Nat.ne_of_lt, ?_⟩
  · exact List.nodup_iff_count.mpr fun label =>
      History.Owned.once reachable.owns (.client label)
  · rintro label isAccepted _ waits rfl
    -- Those that have been accepted are behind the frontier, and those that wait beyond it.
    have behind := numbered.calls _ (History.mem_accepted.mp isAccepted) label rfl
    exact absurd (numbered.beyond label waits).1 (Nat.not_lt_of_le behind)

theorem Opened.nobody {site : Site} (opened : site.Opened) :
    accepted site.calls = [] ∧ enrolled site.calls = [] := by
  constructor
  · refine History.accepted_eq_nil _ fun call member => ?_
    cases accepts : acceptedBy call with
    | none => rfl
    | some label =>
        have about := (opened.silent member).2
        unfold acceptedBy at accepts
        split at accepts
        · cases about
        · cases accepts
  · exact History.enrolled_eq_nil _ fun call member => (opened.silent member).1

/-- Whatever comes into the queue, connections leave it in order. One that leaves it gets
a session and the next id and is counted, unless its switch to non-blocking fails: then it
is closed, and neither. A pass that serves the channel goes on to the end of the queue, or
until there is an error other than an interruption or a connection is refused, and leaves
what is behind that where it is. Whether buffer sizes can be changed makes no difference. -/
theorem admits_in_order (site : Site) (opened : site.Opened) (moves : List Move) :
    (∃ departed, Admitted (site.arrivals moves) departed (site.play moves)) ∧
      (site.play moves).Reception := by
  have start := Reachable.opened opened
  have reachable := start.play moves
  refine ⟨?_, reachable.reception⟩
  obtain ⟨departed, settles⟩ := play_settles start moves
  obtain ⟨nobodyAccepted, nobodyEnrolled⟩ := opened.nobody
  have queue := settles.queue
  have isAccepted := settles.accepted
  have isEnrolled := settles.enrolled
  rw [opened.knocks, List.nil_append] at queue
  rw [nobodyAccepted, List.nil_append] at isAccepted
  rw [nobodyEnrolled, List.nil_append] at isEnrolled
  have once : ((site.arrivals moves).filterMap Knock.label?).Nodup := by
    rw [queue, List.filterMap_append, ← isAccepted]
    exact reachable.labels_nodup
  refine ⟨departed, queue, once, isAccepted, isEnrolled, ?_, ?_, ?_, ?_⟩
  · rw [reachable.accounted.issued, isEnrolled]
  · rw [reachable.accounted.connections, isEnrolled]
  · intro session member
    obtain ⟨frontier, numbered⟩ := reachable.sound.numbered
    have name := numbered.named session member
    -- Ids count from one, so none is zero.
    cases given : session.id with
    | zero =>
        rw [given] at name
        cases name
    | succ id =>
        rw [given] at name
        exact ⟨Nat.succ_pos id, isEnrolled ▸ name⟩
  · intro label errno refused
    refine ⟨?_, settles.refused label errno refused⟩
    rw [queue, List.filterMap_append] at once
    exact Kernel.Knock.refused_not_admitted (List.nodup_append.mp once).1 refused

/-- Two connections with an interruption between them, one that is refused, and two
behind it that wait for the next pass. Buffer sizes cannot be changed. -/
theorem admits_mixed_queue :
    let moves : List Move := [.world (.connect 1 none), .world (.refuse .interrupted),
      .world (.connect 1 none), .world (.connect 1 (some ⟨9⟩)), .world (.connect 2 none),
      .world (.failResize (some ⟨12⟩)), .pass]
    let site := (fresh {}).play moves
    (fresh {}).Opened ∧
      (fresh {}).arrivals moves = [.connection 1 none, .failure .interrupted, .connection 2 none,
        .connection 3 (some ⟨9⟩), .connection 4 none, .connection 5 none] ∧
      site.kernel.knocks = [.connection 4 none, .connection 5 none] ∧
      site.relay.roster.sessions.map (fun session => (session.id, session.label)) =
        [(1, 1), (2, 2)] ∧
      (∃ departed, Admitted ((fresh {}).arrivals moves) departed site) ∧ site.Reception :=
  ⟨fresh_opened {}, by decide +kernel, by decide +kernel, by decide +kernel,
    admits_in_order (fresh {}) (fresh_opened {}) _⟩

end Site
end PacketRelay
