import PacketRelay.Proofs.Evolving
import PacketRelay.Proofs.Reaching
import PacketRelay.Proofs.Removing

/-!
How a relay ends. Main statement: a shutdown, and every run that comes to an end,
leaves a relay that is stopped and holds nothing, with its socket file gone
unless the removal was refused; whatever comes after that, nothing is ever done
again but polls that watch nothing.
-/

namespace PacketRelay

open Kernel (Call Deed FileTree Flags)

structure Relay.Ended (relay : Relay) : Prop where
  stopped : relay.running = false
  tunnel : relay.tunnel = none
  roster : relay.roster.sessions = []
  channel : relay.channel.isOpen = false

theorem Relay.Ended.isShutDown {relay : Relay} (ended : relay.Ended) :
    Site.isShutDown relay = true := by
  simp [Site.isShutDown, ended.tunnel, ended.roster, ended.channel]

namespace Site

/-! ## Shutting down -/

theorem closing_files (site : Site) :
    site.closeTunnel.closeSessions.kernel.files = site.kernel.files ∧
      site.closeTunnel.closeSessions.kernel.faults = site.kernel.faults := by
  have absorbed (sessions : List Session) (site : Site) :
      (sessions.foldl absorb site).kernel.files = site.kernel.files ∧
        (sessions.foldl absorb site).kernel.faults = site.kernel.faults := by
    induction sessions generalizing site with
    | nil => exact ⟨rfl, rfl⟩
    | cons session rest ih => exact ih (site.absorb session)
  obtain ⟨files, faults⟩ := absorbed site.closeTunnel.relay.roster.sessions
    { site.closeTunnel with relay.roster.sessions := [] }
  have untunnelled : site.closeTunnel.kernel.files = site.kernel.files ∧
      site.closeTunnel.kernel.faults = site.kernel.faults := by
    unfold closeTunnel
    split <;> exact ⟨rfl, rfl⟩
  exact ⟨files.trans untunnelled.1, faults.trans untunnelled.2⟩

theorem shutdown_ended (site : Site) : site.shutdown.relay.Ended := by
  unfold shutdown
  dsimp only
  split
  · next down =>
      simp only [isShutDown, Bool.and_eq_true, Option.isNone_iff_eq_none, List.isEmpty_iff,
        Bool.not_eq_eq_eq_not, Bool.not_true] at down
      exact ⟨rfl, down.1.1, down.1.2, down.2⟩
  · simp only [note, closeChannel, closeSessions_relay, closeTunnel_relay, Channel.close_channel]
    exact ⟨rfl, rfl, rfl, rfl⟩

theorem shutdown_channel (site : Site) :
    site.shutdown.relay.channel = { site.relay.channel with isOpen := false } := by
  have closed := site.shutdown_ended.channel
  unfold shutdown at closed ⊢
  dsimp only at closed ⊢
  split
  · next down =>
      rw [if_pos down] at closed
      rw [← closed]
  · simp only [note, closeChannel, closeSessions_relay, closeTunnel_relay, Channel.close_channel]

/-- What the files are after a shutdown depends on whether the channel was still open. -/
structure Vacates (before after : Site) : Prop where
  gone : before.relay.channel.isOpen = true →
    after.kernel.files.at? before.relay.channel.path = none ∨
      ∃ error, before.kernel.faults.removal before.relay.channel.path before.kernel.files =
          .error error ∧
        error ≠ .os .notFound ∧ after.kernel.files = before.kernel.files
  left : before.relay.channel.isOpen = false → after.kernel.files = before.kernel.files

theorem shutdown_vacates (site : Site) : site.Vacates site.shutdown := by
  unfold shutdown
  dsimp only
  split
  · next down =>
      have closed : site.relay.channel.isOpen = false := by
        simp only [isShutDown, Bool.and_eq_true, Bool.not_eq_eq_eq_not, Bool.not_true] at down
        exact down.2
      constructor
      · intro isOpen
        rw [closed] at isOpen
        cases isOpen
      · exact fun _ => rfl
  · obtain ⟨files, faults⟩ := closing_files { site with relay.running := false }
    have channel :
        (closeSessions (closeTunnel { site with relay.running := false })).relay.channel =
        site.relay.channel := by
      simp only [closeSessions_relay, closeTunnel_relay]
    generalize closeSessions (closeTunnel { site with relay.running := false }) = emptied
      at files faults channel ⊢
    constructor
    · intro isOpen
      have closed := Channel.close_files emptied.kernel (channel ▸ isOpen)
      rw [files, faults] at closed
      unfold closeChannel
      rw [← channel]
      exact closed
    · intro isClosed
      unfold closeChannel
      rw [Channel.close_closed _ (channel ▸ isClosed)]
      exact files

/-! ## Once it has ended -/

variable {site later : Site}

theorem shutdown_of_ended (ended : site.relay.Ended) : site.shutdown = site := by
  obtain ⟨relay, kernel⟩ := site
  unfold shutdown
  rw [if_pos ended.isShutDown, ← ended.stopped]

theorem letGo_of_ended (ended : site.relay.Ended) : site.letGo = site := by
  obtain ⟨relay, kernel⟩ := site
  obtain ⟨tunnel, channel, ⟨sessions, issued⟩⟩ := relay
  obtain ⟨_, rfl, rfl, closed⟩ := ended
  simp [letGo, Channel.close_closed kernel closed]

/-- What a relay holds is closed by the shutdown already when it goes out of use. -/
theorem release_eq_shutdown (site : Site) : site.release = site.shutdown :=
  letGo_of_ended site.shutdown_ended

def idlePoll : Except Errno (List Flags) → Except Failure Unit
  | .ok _ => .ok ()
  | .error errno => if errno = .interrupted then .ok () else .error (.poll errno)

structure Polled (site : Site) (made : Except Failure Unit × Site) : Prop where
  relay : made.2.relay = site.relay
  files : made.2.kernel.files = site.kernel.files
  poll : ∃ result, made.2.calls = .poll site.relay.pollTimeout [] result :: site.calls ∧
    made.1 = idlePoll result

theorem pass_of_ended (ended : site.relay.Ended) : site.Polled site.pass := by
  have nothing : watched site.relay = [] := by
    simp [watched, ended.tunnel, ended.channel, ended.roster]
  unfold pass ready Kernel.poll
  simp only [nothing, List.map_nil, Kernel.reports, List.zip_nil_left, List.filter_nil]
  cases faults : site.kernel.pollFaults with
  | nil => exact ⟨rfl, rfl, .ok [], rfl, rfl⟩
  | cons errno later =>
      by_cases harmless : errno = .interrupted
      · simp only [if_pos harmless, serveAll]
        exact ⟨rfl, rfl, .error errno, rfl, (if_pos harmless).symm⟩
      · simp only [if_neg harmless]
        exact ⟨rfl, rfl, .error errno, rfl, (if_neg harmless).symm⟩

end Site

/-- The files as a move of the world leaves them; the relay's own moves are to leave them alone. -/
def Move.leaves (files : FileTree) : Move → FileTree
  | .world (.changeFiles changed) => changed
  | _ => files

namespace Site

/-- Nothing has been done but polls that watch nothing, and nothing else will be. -/
structure Over (last : Site) (moves : List Move) (later : Site) : Prop where
  relay : later.relay = last.relay
  calls : ∃ new, later.calls = new ++ last.calls ∧
    ∀ call ∈ new, ∃ timeout result, call = .poll timeout [] result
  files : later.kernel.files = moves.foldl Move.leaves last.kernel.files
  shutdown : later.shutdown = later
  release : later.release = later
  pass : later.Polled later.pass

theorem undergo_files (deed : Deed) (site : Site) :
    (site.undergo deed).kernel.files = Move.leaves site.kernel.files (.world deed) := by
  cases deed <;> rfl

variable {last : Site} {moves : List Move}

theorem Over.refl (ended : last.relay.Ended) : last.Over [] last where
  relay := rfl
  calls := ⟨[], rfl, by simp⟩
  files := rfl
  shutdown := shutdown_of_ended ended
  release := by rw [release_eq_shutdown, shutdown_of_ended ended]
  pass := pass_of_ended ended

theorem Over.move (ended : last.relay.Ended) (made : Move) :
    last.Over [made] (last.move made).2 := by
  cases made with
  | world deed =>
      have after : (last.undergo deed).Over [] (last.undergo deed) := .refl ended
      exact { after with
        relay := rfl
        calls := ⟨[], congrArg Record.calls (Kernel.undergo_record deed last.kernel), by simp⟩
        files := undergo_files deed last }
  | pass =>
      have polled := pass_of_ended ended
      obtain ⟨result, calls, _⟩ := polled.poll
      have after : last.pass.2.Over [] last.pass.2 := .refl (polled.relay ▸ ended)
      exact { after with
        relay := polled.relay
        calls := ⟨[_], calls, by simp⟩
        files := polled.files }
  | shutdown =>
      have same : (last.move .shutdown).2 = last := shutdown_of_ended ended
      rw [same]
      exact { Over.refl ended with files := rfl }

theorem Over.play (ended : last.relay.Ended) (moves : List Move) :
    last.Over moves (last.play moves) := by
  induction moves generalizing last with
  | nil => exact .refl ended
  | cons made rest ih =>
      have first := Over.move ended made
      have after := ih (first.relay ▸ ended)
      obtain ⟨new, appended, polls⟩ := first.calls
      obtain ⟨more, appendedLater, morePolls⟩ := after.calls
      refine { after with relay := after.relay.trans first.relay, calls := ?_, files := ?_ }
      · refine ⟨more ++ new, ?_, ?_⟩
        · rw [List.append_assoc, ← appended]
          exact appendedLater
        · intro call member
          rcases List.mem_append.mp member with late | early
          · exact morePolls call late
          · exact polls call early
      · have files := after.files
        rw [first.files] at files
        exact files

end Site

/-! ## The socket file -/

theorem Turn.channel (stage next : Stage) (turn : Turn stage next) :
    next.site.relay.channel = stage.site.relay.channel ∨
      stage = .rest stage.site ∧ next = .rest stage.site.closeChannel := by
  cases turn with
  | closedChannel site => exact .inr ⟨rfl, rfl⟩
  | closedTunnel site =>
      refine .inl ?_
      change site.closeTunnel.relay.channel = site.relay.channel
      rw [Site.closeTunnel_relay]
  | _ => exact .inl rfl

/-- Once the channel is closed, the removal of its file has been tried, right then. -/
def Stage.Vacated (stage : Stage) : Prop :=
  stage.site.relay.channel.isOpen = false → ∃ failure earlier,
    .removeFile stage.site.relay.channel.path failure :: .close .channel :: earlier <:+
      stage.site.calls

namespace Stage.Vacated

variable {stage next : Stage}

theorem grow (vacated : stage.Vacated)
    (channel : next.site.relay.channel = stage.site.relay.channel)
    (grows : stage.site.calls <:+ next.site.calls) : next.Vacated := by
  intro closed
  rw [channel] at closed ⊢
  obtain ⟨failure, earlier, tried⟩ := vacated closed
  exact ⟨failure, earlier, tried.trans grows⟩

theorem turn (vacated : stage.Vacated) (turn : Turn stage next) : next.Vacated := by
  rcases turn.channel stage next with same | ⟨_, rfl⟩
  · exact vacated.grow same (turn.grows _ _)
  · cases isOpen : stage.site.relay.channel.isOpen with
    | false =>
        have same : stage.site.closeChannel = stage.site := by
          unfold Site.closeChannel
          rw [Channel.close_closed _ isOpen]
        rw [same]
        exact vacated
    | true =>
        intro _
        obtain ⟨failure, calls⟩ := Channel.close_calls stage.site.kernel isOpen
        refine ⟨failure, stage.site.calls, [], ?_⟩
        simp only [Site.closeChannel, Channel.close_channel, Site.calls, calls, List.nil_append]

theorem lasting : Site.Lasting Stage.Vacated where
  turn _ _ step _ vacated := vacated.turn step
  deed site deed _ vacated := by
    have same := congrArg Record.calls (Kernel.undergo_record deed site.kernel)
    exact vacated.grow rfl ⟨[], same.symm⟩
  opened site opened closed := by
    obtain ⟨name, channel, settings, isOpen, relay⟩ := opened.relay
    rw [relay] at closed
    exact absurd (isOpen.symm.trans closed) (by simp)
  failing site failure after fatal _ vacated := by
    refine vacated.grow ?_ (fatal.grows _ _ _)
    cases fatal <;> rfl
  flagged site stop vacated := vacated.grow rfl List.suffix_rfl

end Stage.Vacated

/-! ## However it ends -/

namespace Site

structure Leaves (before last : Site) : Prop extends last.relay.Ended, before.Vacates last where
  tried : ∃ failure earlier,
    .removeFile before.relay.channel.path failure :: .close .channel :: earlier <:+ last.calls

/-- Why the passes of a run came to an end: a stop was requested, or a pass failed. -/
inductive Exit (before : Site) : Except Failure Unit → Prop
  | stopped (requested : before.relay.stopRequested = true) : Exit before (.ok ())
  | failed {polled after : Site} {failure : Failure} (reachable : polled.Reachable)
      (failed : polled.pass = (.error failure, after))
      (noted : before = after.note (.fatal failure)) :
      Exit before (.error failure)

variable {site last : Site} {result : Except Failure Unit}

theorem Reachable.leaves (reachable : site.Reachable) : site.Leaves site.shutdown where
  toEnded := site.shutdown_ended
  toVacates := site.shutdown_vacates
  tried := by
    have tried := (reachable.shutdown.lasting Stage.Vacated.lasting).2 site.shutdown_ended.channel
    rw [shutdown_channel] at tried
    exact tried

theorem amid_channel (interlude : Interlude) (site : Site) :
    (site.amid interlude).relay.channel = site.relay.channel := by
  have undergone (deeds : List Deed) (site : Site) :
      (deeds.foldl (fun site deed => site.undergo deed) site).relay = site.relay := by
    induction deeds generalizing site with
    | nil => rfl
    | cons deed later ih => exact ih (site.undergo deed)
  unfold amid
  cases interlude.stop with
  | none => rw [undergone]
  | some stop => simp only [flag, undergone]

theorem Reachable.exit (reachable : site.Reachable) (passes : Passes site result last) :
    last.Exit result ∧ last.relay.channel = site.relay.channel := by
  induction passes with
  | met interlude _ ih =>
      obtain ⟨reason, channel⟩ := ih (reachable.met interlude)
      exact ⟨reason, channel.trans (amid_channel interlude _)⟩
  | stopped requested => exact ⟨.stopped requested, rfl⟩
  | @failed site after failure going interlude failed =>
      have evolves := pass_evolves (site.amid interlude)
      rw [failed] at evolves
      exact ⟨.failed (reachable.met interlude) failed rfl,
        evolves.channel.trans (amid_channel interlude site)⟩
  | @passed site after last result going interlude passed _ ih =>
      have evolves := pass_evolves (site.amid interlude)
      have reached := (reachable.met interlude).pass
      rw [passed] at evolves reached
      obtain ⟨reason, channel⟩ := ih reached
      exact ⟨reason, (channel.trans evolves.channel).trans (amid_channel interlude site)⟩

/-- A relay ends once and for all. Whether it is shut down or a run comes to an
end, it holds nothing afterwards; a run ends because it was asked to, or with the
failure of a pass. Whatever is done after that, the relay stays as it is, the
files are what the world makes of them, and a pass is an empty poll. -/
theorem ends_for_good (site : Site) (reachable : site.Reachable) :
    site.Leaves site.shutdown ∧
    (∀ (result : Except Failure Unit) (last : Site), site.Runs result last →
      ∃ before : Site, before.Leaves last ∧ before.Exit result ∧
        before.relay.channel = site.relay.channel) ∧
    (∀ polls, site.Runs (site.run polls).1 (site.run polls).2) ∧
    ∀ last : Site, (last = site.shutdown ∨ ∃ result, site.Runs result last) →
      ∀ moves, last.Over moves (last.play moves) := by
  have running (result : Except Failure Unit) (last : Site) (runs : site.Runs result last) :
      ∃ before : Site, before.Leaves last ∧ before.Exit result ∧
        before.relay.channel = site.relay.channel := by
    obtain ⟨before, passes, rfl⟩ := runs
    obtain ⟨reason, channel⟩ := reachable.begun.exit passes
    exact ⟨before, (reachable.begun.passes passes).leaves, reason, channel⟩
  refine ⟨reachable.leaves, running, fun polls => run_runs polls site, ?_⟩
  rintro last (rfl | ⟨result, runs⟩) moves
  · exact .play site.shutdown_ended moves
  · obtain ⟨before, leaves, _⟩ := running result last runs
    exact .play leaves.toEnded moves

/-- A client's packet makes the tunnel fail while another client still has a tail
to be sent. The run ends with that failure, and what someone then puts in place of
the socket file stays, whatever is done to the relay after that. -/
theorem ends_after_failure :
    let site := (fresh { socketPath := "relay.sock" }).play [.world (.connect 2 none), .pass,
      .world (.supplyTunnel { inbound := [.data [7]], outbound := [.failure .noDevice] }),
      .world (.supplyClient 2 { outbound := [.upTo 3], room := some (some 0) }),
      .world (.supplyClient 1 { inbound := [.data [0, 0, 0, 1, 9]] })]
    let last := (site.run 3).2
    let files : FileTree := ⟨[(["relay.sock"], .file [1])]⟩
    let later := last.play [.world (.changeFiles files), .pass, .shutdown, .pass]
    site.Reachable ∧ (site.run 3).1 = .error (.tunnelIo .noDevice) ∧ last.relay.Ended ∧
      later.release.kernel.files = files ∧ later.relay.totals = last.relay.totals := by
  have reachable : ∀ moves, ((fresh { socketPath := "relay.sock" }).play moves).Reachable :=
    fun moves => .play (.opened (fresh_opened _)) moves
  have ends (site last : Site) (reached : site.Reachable) (runs : site.Runs (site.run 3).1 last)
      (files : FileTree) (later : Site)
      (played : last.play [.world (.changeFiles files), .pass, .shutdown, .pass] = later) :
      last.relay.Ended ∧ later.release.kernel.files = files ∧
        later.relay.totals = last.relay.totals := by
    obtain ⟨_, ended, _, lasts⟩ := ends_for_good site reached
    obtain ⟨_, leaves, _⟩ := ended _ last runs
    have still := lasts last (.inr ⟨_, runs⟩) [.world (.changeFiles files), .pass, .shutdown, .pass]
    rw [played] at still
    exact ⟨leaves.toEnded, by rw [still.release, still.files]; rfl, by rw [still.relay]⟩
  exact ⟨reachable _, by decide +kernel, ends _ _ (reachable _) (run_runs 3 _) _ _ rfl⟩

end Site
end PacketRelay
