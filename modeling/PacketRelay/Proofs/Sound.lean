import PacketRelay.Proofs.Labels

/-!
What holds of a relay at every stage: ids and labels are in order, a session is
connected unless it is about to leave, and no one is both offered a packet and
leaving. Main statement: any property that such a stage keeps at each turn is
kept by whole runs.
-/

namespace PacketRelay

open Kernel (Call Deed Knock)
open History (enrolled enrolledBy)
open Site (Numbered)

/-! ## Who stays connected -/

def Disposition.isClosed : Except Errno Disposition → Bool
  | .ok (.closed _) => true
  | _ => false

namespace Circuit

theorem forwardPacket_connected (name : String) (packet : Bytes) (circuit : Circuit) :
    (circuit.forwardPacket name packet).2.session.connected = circuit.session.connected := by
  obtain ⟨_, _, _, _, session, _⟩ := forwardPacket_spec name packet circuit
  rw [session]
  split <;> rfl

theorem forward_connected (name : String) (input : Bytes) (circuit : Circuit) :
    (circuit.forward name input).2.session.connected = circuit.session.connected := by
  fun_induction forward name input circuit with
  | case1 circuit => rfl
  | case2 => rfl
  | case3 input circuit someInput decoder rest decoded ih => exact ih
  | case4 input circuit someInput packet decoder rest decoded errno after failed =>
      have kept := forwardPacket_connected name packet
        (circuit.update fun session => { session with decoder })
      rw [failed] at kept
      exact kept
  | case5 input circuit someInput packet decoder rest decoded after passed ih =>
      have kept := forwardPacket_connected name packet
        (circuit.update fun session => { session with decoder })
      rw [passed] at kept
      exact ih.trans kept

theorem serve_connected (name : String) (size budget : Nat) (circuit : Circuit) :
    (circuit.serve name size budget).2.session.connected =
      (circuit.session.connected && !Disposition.isClosed (circuit.serve name size budget).1) := by
  induction budget generalizing circuit with
  | zero => simp [serve, Disposition.isClosed, note, Line.note]
  | succ budget ih =>
      unfold serve
      split
      · simp [part, Line.disconnect, Line.update, Disposition.isClosed]
      · next bytes handle someBytes made =>
          have kept := forward_connected name bytes (circuit.overStream handle)
          split
          · next errno after failed =>
              rw [failed] at kept
              simp only [Disposition.isClosed, Bool.not_false, Bool.and_true]
              exact kept
          · simp [part, Line.disconnect, Line.update, Disposition.isClosed]
          · next after passed =>
              rw [passed] at kept
              rw [ih, kept]
              rfl
      · next errno handle made =>
          split
          · simp [overStream, Line.withHandle, Disposition.isClosed]
          · simp [part, Line.disconnect, Line.update, Disposition.isClosed]

/-- Reading disconnects a session exactly when it ends it. -/
theorem read_connected (name : String) (size budget : Nat) (circuit : Circuit) :
    (circuit.read name size budget).2.session.connected =
      (circuit.session.connected && !Disposition.isClosed (circuit.read name size budget).1) := by
  unfold read
  split
  · exact serve_connected name size budget circuit
  · next ended => simp [ended]

end Circuit

/-! ## Sound stages -/

namespace Stage

structure Sound (stage : Stage) : Prop where
  ordered : stage.site.relay.roster.Ordered
  numbered : ∃ frontier, Numbered frontier stage.site
  apart : (stage.offers.map (·.1) ++ stage.leaving.map (·.1)).Nodup
  connected : ∀ session ∈ stage.site.relay.roster.sessions,
    session.connected = true ∨ session.id ∈ stage.leaving.map (·.1)

namespace Sound

variable {site : Site} {session : Session}

theorem rest_connected (sound : Sound (.rest site))
    (member : session ∈ site.relay.roster.sessions) : session.connected = true := by
  rcases sound.connected session member with connected | leaving
  · exact connected
  · cases leaving

end Sound
end Stage

theorem Turn.apart (stage next : Stage) (turn : Turn stage next) (sound : stage.Sound) :
    (next.offers.map (·.1) ++ next.leaving.map (·.1)).Nodup := by
  cases turn with
  | noted => exact sound.apart
  | polled | idle | dropped | flushed | refused | closedTunnel | dismissed | closedChannel
  | accepted | marked => exact List.nodup_nil
  | broke | hungUp => simp
  | @took site packet handle received legal =>
      have ids : (site.relay.roster.sessions.map (·.id)).Nodup :=
        List.pairwise_map.mpr (sound.ordered.ids.imp Nat.ne_of_lt)
      simp only [List.map_map, List.map_nil, List.append_nil]
      exact ids
  | @offered site session packet offers leaving sending line found sent =>
      have before := sound.apart
      simp only [List.map_cons, List.cons_append, List.nodup_cons] at before
      obtain ⟨absent, others⟩ := before
      cases sending with
      | closed parting =>
          -- The session has left the offers by the time it is leaving.
          simp only [Sending.partings, List.map_append, List.map_cons, List.map_nil]
          rw [← List.append_assoc, List.nodup_append]
          refine ⟨others, by simp, ?_⟩
          rintro id member other isOwn rfl
          rw [List.mem_singleton.mp isOwn] at member
          exact absent member
      | sent | partly | dropped => simpa [Sending.partings] using others
  | @read site session name disposition circuit found served =>
      cases disposition <;> simp [Disposition.partings]
  | left found =>
      have before := sound.apart
      simp only [List.map_nil, List.nil_append, List.map_cons, List.nodup_cons] at before ⊢
      exact before.2

/-! ## Who stays as they should be -/

/-- Whoever is on the roster is fine, unless it is about to leave. -/
def Stage.Each (fine : Session → Prop) (stage : Stage) : Prop :=
  ∀ session ∈ stage.site.relay.roster.sessions,
    fine session ∨ session.id ∈ stage.leaving.map (·.1)

/-- A session is fine when it is new, and stays so for as long as nothing ends it. -/
structure Session.Sturdy (fine : Session → Prop) : Prop where
  fresh : ∀ id label, fine { id, label }
  sent : ∀ frame (line : Line), fine line.session → (line.send frame).1.isClosed = false →
    fine (line.send frame).2.session
  flushed : ∀ line : Line, fine line.session → line.flush.1.isOk = true →
    fine line.flush.2.session
  read : ∀ name size budget (circuit : Circuit), fine circuit.session →
    Disposition.isClosed (circuit.read name size budget).1 = false →
    fine (circuit.read name size budget).2.session

section

variable {fine : Session → Prop}

theorem Stage.Each.rest {site : Site} (each : Stage.Each fine (.rest site)) {session : Session}
    (member : session ∈ site.relay.roster.sessions) : fine session :=
  (each session member).resolve_right List.not_mem_nil

theorem Turn.each (sturdy : Session.Sturdy fine) (stage next : Stage) (turn : Turn stage next)
    (sound : stage.Sound) (each : stage.Each fine) : next.Each fine := by
  intro session member
  cases turn with
  | noted => exact each session member
  | polled | idle | took | dropped | refused | closedChannel | marked | hungUp =>
      exact .inl (each.rest member)
  | closedTunnel site =>
      unfold Site.closeTunnel at member
      split at member
      · exact .inl (each.rest member)
      · exact .inl (each.rest member)
  | dismissed sessions =>
      refine .inl (each.rest ?_)
      rw [sessions]
      exact List.mem_cons_of_mem _ member
  | accepted taken =>
      rcases List.mem_append.mp member with old | new
      · exact .inl (each.rest old)
      · rw [List.mem_singleton.mp new]
        exact .inl (sturdy.fresh _ _)
  | left found =>
      obtain ⟨old, different⟩ := (Roster.mem_remove sound.ordered).mp member
      rcases each session old with still | leaving
      · exact .inl still
      · exact .inr ((List.mem_cons.mp leaving).resolve_left different)
  | @offered site offeree packet offers leaving sending line found sent =>
      rcases Roster.mem_update member with rfl | ⟨old, _⟩
      -- An offer that closes the session puts it among those about to leave.
      · have kept := sturdy.sent (Frame.wrap packet) (site.kernel.line offeree)
        rw [sent] at kept
        rw [(Line.Sends.of_send sent).id]
        cases sending with
        | sent | partly | dropped =>
            rcases each offeree (Roster.mem_of_find? found).1 with still | leaves
            · exact .inl (kept still rfl)
            · exact .inr (by simpa [Kernel.line] using Or.inl leaves)
        | closed parting => exact .inr (by simp [Sending.partings, Kernel.line])
      · rcases each session old with still | leaves
        · exact .inl still
        · exact .inr (by simpa using Or.inl leaves)
  | @flushed site flusher line found flush =>
      rcases Roster.mem_update member with rfl | ⟨old, _⟩
      · have kept := sturdy.flushed (site.kernel.line flusher)
          (each.rest (Roster.mem_of_find? found).1)
        rw [flush] at kept
        exact .inl (kept rfl)
      · exact .inl (each.rest old)
  | @broke site flusher line parting found flush =>
      rcases Roster.mem_update member with rfl | ⟨old, _⟩
      · rw [(Line.Sends.of_flush flush).id]
        exact .inr (by simp [Kernel.line])
      · exact .inl (each.rest old)
  | @read site reader name disposition circuit found served =>
      rcases Roster.mem_update member with rfl | ⟨old, _⟩
      · have kept := sturdy.read name Tunnel.maxPacketSize site.relay.readBudget
          (site.kernel.circuit reader) (each.rest (Roster.mem_of_find? found).1)
        rw [served] at kept
        rw [(Circuit.Receives.of_read served).id]
        cases disposition with
        | unfinished | idle => exact .inl (kept rfl)
        | closed parting => exact .inr (by simp [Disposition.partings, Kernel.circuit, Kernel.line])
      · exact .inl (each.rest old)

theorem Fatal.each (sturdy : Session.Sturdy fine) (site : Site) (failure : Failure) (after : Site)
    (fatal : Fatal site failure after) (each : Stage.Each fine (.rest site)) :
    Stage.Each fine (.rest after) := by
  intro session member
  cases fatal with
  | poll | receive => exact .inl (each.rest member)
  | @transmit reader name errno circuit found failed =>
      rcases Roster.mem_update member with rfl | ⟨old, _⟩
      · have kept := sturdy.read name Tunnel.maxPacketSize site.relay.readBudget
          (site.kernel.circuit reader) (each.rest (Roster.mem_of_find? found).1)
        rw [failed] at kept
        exact .inl (kept rfl)
      · exact .inl (each.rest old)

end

theorem sturdy_connected : Session.Sturdy (·.connected = true) where
  fresh _ _ := rfl
  sent frame line connected stays := by
    rw [(Line.send_counts frame line connected).2.2, stays]
    rfl
  flushed line connected flushed := by
    rw [(Line.flush_counts line).2, connected, flushed]
    rfl
  read name size budget circuit connected stays := by
    rw [Circuit.read_connected, connected, stays]
    rfl

theorem Turn.sound (stage next : Stage) (turn : Turn stage next) (sound : stage.Sound) :
    next.Sound where
  ordered := turn.ordered stage next sound.ordered
  numbered := turn.numbered stage next sound.numbered
  apart := turn.apart stage next sound
  connected := turn.each sturdy_connected stage next sound sound.connected

theorem Fatal.sound (site : Site) (failure : Failure) (after : Site)
    (fatal : Fatal site failure after) (sound : Stage.Sound (.rest site)) :
    Stage.Sound (.rest after) where
  ordered := fatal.ordered site failure after sound.ordered
  numbered := fatal.numbered site failure after sound.numbered
  apart := List.nodup_nil
  connected := fatal.each sturdy_connected site failure after sound.connected

theorem Path.sound {stage last : Stage} {result : Except Failure Unit}
    (path : Path stage result last) (sound : stage.Sound) : last.Sound :=
  path.invariant Turn.sound Fatal.sound sound

/-! ## Whole runs -/

namespace Kernel

theorem undergo_record (deed : Deed) (kernel : Kernel) :
    (kernel.undergo deed).record = kernel.record := by
  cases deed <;> rfl

theorem undergo_waiting (deed : Deed) (kernel : Kernel) :
    ∃ count, (kernel.undergo deed).waiting =
        kernel.waiting ++ List.range' (kernel.connected + 1) count ∧
      (kernel.undergo deed).connected = kernel.connected + count := by
  cases deed with
  | connect count fault =>
      refine ⟨count, ?_, rfl⟩
      simp only [undergo, connect, waiting, List.filterMap_append, List.filterMap_map]
      congr 1
      exact List.filterMap_some
  | refuse errno => exact ⟨0, by simp [undergo, waiting, Knock.label?], rfl⟩
  | supplyTunnel | supplyClient | forceChannel | failPoll | failResize | denyRemoval
  | changeFiles =>
      exact ⟨0, by simp [undergo, waiting, setClient], rfl⟩

end Kernel

namespace Site

def undergo (deed : Deed) (site : Site) : Site :=
  { site with kernel := site.kernel.undergo deed }

theorem Numbered.undergo {frontier : Nat} {site : Site} (numbered : Numbered frontier site)
    (deed : Deed) : Numbered frontier (site.undergo deed) := by
  obtain ⟨count, waiting, connected⟩ := Kernel.undergo_waiting deed site.kernel
  have same : (site.undergo deed).calls = site.calls :=
    congrArg Record.calls (Kernel.undergo_record deed site.kernel)
  have waiting : (site.undergo deed).kernel.waiting =
    site.kernel.waiting ++ List.range' (site.kernel.connected + 1) count := waiting
  have connected : (site.undergo deed).kernel.connected = site.kernel.connected + count := connected
  have reached := numbered.reached
  constructor
  case waiting =>
    rw [waiting, List.pairwise_append]
    refine ⟨numbered.waiting, List.pairwise_lt_range', ?_⟩
    intro old member new isNew
    have bound := (numbered.beyond old member).2
    have above := (List.mem_range'_1.mp isNew).1
    omega
  case beyond =>
    intro label member
    rw [connected]
    rw [waiting] at member
    rcases List.mem_append.mp member with old | new
    · have bounds := numbered.beyond label old
      omega
    · have bounds := List.mem_range'_1.mp new
      omega
  case reached => omega
  case calls =>
    rw [same]
    exact numbered.calls
  case enrolled =>
    rw [same]
    exact numbered.enrolled
  case issued =>
    rw [same]
    exact numbered.issued
  case named =>
    rw [same]
    exact numbered.named

theorem sound_undergo {site : Site} (deed : Deed) (sound : Stage.Sound (.rest site)) :
    Stage.Sound (.rest (site.undergo deed)) where
  ordered := sound.ordered
  numbered := by
    obtain ⟨frontier, numbered⟩ := sound.numbered
    exact ⟨frontier, numbered.undergo deed⟩
  apart := List.nodup_nil
  connected := sound.connected

theorem Opened.silent {site : Site} (opened : site.Opened) {call : Call}
    (member : call ∈ site.calls) : enrolledBy call = none ∧ call.client? = none := by
  have isOpening := opened.calls call member
  unfold Kernel.Call.isOpening at isOpening
  split at isOpening <;> first | exact ⟨rfl, rfl⟩ | cases isOpening

theorem Opened.roster {site : Site} (opened : site.Opened) : site.relay.roster = {} := by
  obtain ⟨name, channel, settings, _, relay⟩ := opened.relay
  rw [relay]
  rfl

theorem Opened.numbered {site : Site} (opened : site.Opened) : Numbered 0 site := by
  have nobody : enrolled site.calls = [] :=
    History.enrolled_eq_nil _ fun call member => (opened.silent member).1
  have waiting : site.kernel.waiting = [] := by simp [Kernel.waiting, opened.knocks]
  constructor
  case waiting => simp [waiting]
  case beyond => simp [waiting]
  case reached => exact Nat.zero_le _
  case calls =>
    intro call member label about
    rw [(opened.silent member).2] at about
    cases about
  case enrolled => simp [nobody]
  case issued => simp [nobody, opened.roster]
  case named => simp [opened.roster]

theorem Opened.sound {site : Site} (opened : site.Opened) : Stage.Sound (.rest site) where
  ordered := by
    rw [opened.roster]
    exact ⟨.nil, by simp⟩
  numbered := ⟨0, opened.numbered⟩
  apart := List.nodup_nil
  connected := by simp [opened.roster]

structure Kept (holds : Stage → Prop) : Prop where
  turn : ∀ stage next, Turn stage next → stage.Sound → holds stage → holds next
  deed : ∀ site deed, Stage.Sound (.rest site) → holds (.rest site) →
    holds (.rest (site.undergo deed))

/-- Either no pass among the moves fails, or failing passes keep the property as well. -/
def Survives (holds : Stage → Prop) (site : Site) (moves : List Move) : Prop :=
  site.unfailing moves = true ∨ ∀ site failure after, Fatal site failure after →
    Stage.Sound (.rest site) → holds (.rest site) → holds (.rest after)

variable {holds : Stage → Prop} {site : Site}

theorem path_kept (kept : Kept holds) {stage last : Stage} {result : Except Failure Unit}
    (path : Path stage result last)
    (survives : result = .ok () ∨ ∀ site failure after, Fatal site failure after →
      Stage.Sound (.rest site) → holds (.rest site) → holds (.rest after))
    (start : stage.Sound ∧ holds stage) : last.Sound ∧ holds last := by
  induction path with
  | done => exact start
  | turn step _ ih =>
      exact ih survives ⟨step.sound _ _ start.1, kept.turn _ _ step start.1 start.2⟩
  | failed fatal =>
      rcases survives with passed | failing
      · cases passed
      · exact ⟨fatal.sound _ _ _ start.1, failing _ _ _ fatal start.1 start.2⟩

theorem move_kept (kept : Kept holds) (made : Move)
    (survives : (site.move made).1 = .ok () ∨ ∀ site failure after, Fatal site failure after →
      Stage.Sound (.rest site) → holds (.rest site) → holds (.rest after))
    (start : Stage.Sound (.rest site) ∧ holds (.rest site)) :
    Stage.Sound (.rest (site.move made).2) ∧ holds (.rest (site.move made).2) := by
  cases made with
  | world deed => exact ⟨sound_undergo deed start.1, kept.deed site deed start.1 start.2⟩
  | pass => exact path_kept kept (pass_path site start.1.ordered) survives start
  | shutdown => exact path_kept kept (shutdown_path site) (.inl rfl) start

theorem isOk_ok {result : Except Failure Unit} (passed : result.isOk = true) : result = .ok () := by
  cases result with
  | ok value => rfl
  | error failure => cases passed

/-- What every step keeps, a run keeps. -/
theorem play_kept (kept : Kept holds) (moves : List Move) (survives : site.Survives holds moves)
    (start : Stage.Sound (.rest site) ∧ holds (.rest site)) :
    Stage.Sound (.rest (site.play moves)) ∧ holds (.rest (site.play moves)) := by
  induction moves generalizing site with
  | nil => exact start
  | cons made rest ih =>
      rcases survives with passing | failing
      · simp only [unfailing, Bool.and_eq_true] at passing
        obtain ⟨passed, later⟩ := passing
        exact ih (.inl later) (move_kept kept made (.inl (isOk_ok passed)) start)
      · exact ih (.inr failing) (move_kept kept made (.inr failing) start)

theorem sound_kept : Kept Stage.Sound where
  turn _ _ turn sound _ := turn.sound _ _ sound
  deed _ deed sound _ := sound_undergo deed sound

theorem move_sound (made : Move) (sound : Stage.Sound (.rest site)) :
    Stage.Sound (.rest (site.move made).2) :=
  (move_kept sound_kept made (.inr fun _ _ _ fatal sound _ => fatal.sound _ _ _ sound)
    ⟨sound, sound⟩).1

end Site
end PacketRelay
