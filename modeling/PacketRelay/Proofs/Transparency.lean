import PacketRelay.Proofs.Glances

/-!
Interruptions are not seen. Main statement: put interruptions anywhere in what
the tunnel and the clients are to give and to take, and in the queue of
connections, at any time. Every pass and every shutdown has the same result, and
the same bytes have been taken, the same descriptors closed, and the same
clients are connected and counted after it.
-/

namespace PacketRelay

open Kernel (Arrival Call Deed Descriptor Endpoint Intake Knock Supply)

/-! ## Shutting down -/

namespace Site

variable {one two : Site}

theorem closeTunnel_matches (same : Matches one two) :
    Matches one.closeTunnel two.closeTunnel := by
  unfold closeTunnel
  rw [← same.relay]
  cases one.relay.tunnel with
  | none => exact same
  | some name => exact ⟨rfl, (same.kernel.note _ _).call (.close .tunnel)⟩

theorem absorbAll_matches (same : Matches one two) (sessions : List Session) :
    Matches (sessions.foldl absorb one) (sessions.foldl absorb two) := by
  induction sessions generalizing one two with
  | nil => exact same
  | cons session rest ih => exact ih (absorb_matches same session)

theorem closeSessions_matches (same : Matches one two) :
    Matches one.closeSessions two.closeSessions := by
  have emptied := same.change fun relay => { relay with roster.sessions := [] }
  have sessions := congrArg (fun relay : Relay => relay.roster.sessions) same.relay
  unfold closeSessions Roster.drain
  dsimp only at sessions ⊢
  rw [← sessions]
  exact absorbAll_matches emptied one.relay.roster.sessions

theorem closeChannel_matches (same : Matches one two) :
    Matches one.closeChannel two.closeChannel := by
  obtain ⟨closed, left, new, _, _, outcome⟩ :=
    Channel.close_spec one.relay.channel one.kernel.files one.kernel.faults
  unfold closeChannel
  rw [← same.relay, outcome one.kernel rfl rfl,
    outcome two.kernel same.kernel.files.symm same.kernel.faults.symm]
  refine ⟨rfl, ?_, same.kernel.clients, Record.effects_onto same.kernel.record new⟩
  exact congrArg (fun kernel : Kernel => { kernel with files := left }) same.kernel.calm

theorem shutdown_matches (same : Matches one two) : Matches one.shutdown two.shutdown := by
  have stopped := same.change fun relay => { relay with running := false }
  unfold shutdown
  dsimp only
  split
  · next ended =>
      rw [same.relay] at ended
      rw [if_pos ended]
      exact stopped
  · next openStill =>
      rw [same.relay] at openStill
      rw [if_neg openStill]
      exact (closeChannel_matches (closeSessions_matches (closeTunnel_matches stopped))).note _ _

end Site

/-! ## Deeds of the world -/

namespace Kernel

variable {one two : Kernel}

theorem Endpoint.add_calm (supply : Supply) {one two : Endpoint} (same : one.calm = two.calm) :
    (one.add supply).calm = (two.add supply).calm := by
  have added (endpoint : Endpoint) : (endpoint.add supply).calm =
      (endpoint.calm.add supply).calm := by
    simp [add, calm]
  rw [added one, added two, same]

theorem Matches.queue (same : one.Matches two) (later : List Knock) :
    Matches { one with knocks := one.knocks ++ later }
      { two with knocks := two.knocks ++ later } :=
  same.withKnocks (by rw [List.filter_append, List.filter_append, same.knocks])

theorem Matches.connect (same : one.Matches two) (count : Nat) (fault : Option Errno) :
    (one.connect count fault).Matches (two.connect count fault) := by
  have connected := congrArg Kernel.connected same.calm
  change one.connected = two.connected at connected
  unfold Kernel.connect
  rw [← connected]
  have queued := (same.queue ((List.range' (one.connected + 1) count).map
    fun label => .connection label fault)).calm
  let made (kernel : Kernel) : Kernel := { kernel with connected := one.connected + count }
  exact ⟨congrArg made queued, same.clients, same.record⟩

theorem Matches.undergo (same : one.Matches two) (deed : Deed) :
    (one.undergo deed).Matches (two.undergo deed) := by
  cases deed with
  | connect count fault => exact same.connect count fault
  | refuse errno => exact same.queue [.failure errno]
  | supplyTunnel supply => exact same.withTunnel (Endpoint.add_calm supply same.tunnel)
  | supplyClient label supply =>
      exact same.setClient label (Endpoint.add_calm supply (same.clients label))
  | forceChannel flags =>
      exact ⟨congrArg (Kernel.undergo (.forceChannel flags)) same.calm, same.clients, same.record⟩
  | failPoll errno =>
      exact ⟨congrArg (Kernel.undergo (.failPoll errno)) same.calm, same.clients, same.record⟩
  | failResize fault =>
      exact ⟨congrArg (Kernel.undergo (.failResize fault)) same.calm, same.clients, same.record⟩
  | denyRemoval denial =>
      exact ⟨congrArg (Kernel.undergo (.denyRemoval denial)) same.calm, same.clients, same.record⟩
  | changeFiles files =>
      exact ⟨congrArg (Kernel.undergo (.changeFiles files)) same.calm, same.clients, same.record⟩

/-! ## Interruptions -/

/-- A place for one more interruption, by how many entries are before it. -/
inductive Interruption where
  | tunnelRead (before : Nat)
  | tunnelWrite (before : Nat)
  | clientRead (label before : Nat)
  | clientWrite (label before : Nat)
  | accept (before : Nat)

end Kernel

open Kernel (Interruption)

def Kernel.Endpoint.interruptRead (before : Nat) (endpoint : Endpoint) : Endpoint :=
  { endpoint with inbound := endpoint.inbound.insertIdx before (.failure .interrupted) }

def Kernel.Endpoint.interruptWrite (before : Nat) (endpoint : Endpoint) : Endpoint :=
  { endpoint with outbound := endpoint.outbound.insertIdx before (.failure .interrupted) }

def Kernel.interrupt : Interruption → Kernel → Kernel
  | .tunnelRead before, kernel => { kernel with tunnel := kernel.tunnel.interruptRead before }
  | .tunnelWrite before, kernel => { kernel with tunnel := kernel.tunnel.interruptWrite before }
  | .clientRead label before, kernel =>
      kernel.setClient label ((kernel.client label).interruptRead before)
  | .clientWrite label before, kernel =>
      kernel.setClient label ((kernel.client label).interruptWrite before)
  | .accept before, kernel =>
      { kernel with knocks := kernel.knocks.insertIdx before (.failure .interrupted) }

theorem filter_insertIdx {α : Type} {keeps : α → Bool} {entry : α} (dropped : keeps entry = false)
    (before : Nat) (entries : List α) :
    (entries.insertIdx before entry).filter keeps = entries.filter keeps := by
  induction entries generalizing before with
  | nil => cases before <;> simp [dropped]
  | cons first rest ih =>
      cases before with
      | zero => simp [dropped]
      | succ before => simp [List.filter_cons, ih]

namespace Kernel

theorem Endpoint.interruptRead_calm (before : Nat) (endpoint : Endpoint) :
    (endpoint.interruptRead before).calm = endpoint.calm := by
  simp only [calm, interruptRead]
  rw [filter_insertIdx rfl]

theorem Endpoint.interruptWrite_calm (before : Nat) (endpoint : Endpoint) :
    (endpoint.interruptWrite before).calm = endpoint.calm := by
  simp only [calm, interruptWrite]
  rw [filter_insertIdx rfl]

theorem interrupt_matches (interruption : Interruption) (kernel : Kernel) :
    (kernel.interrupt interruption).Matches kernel := by
  cases interruption with
  | tunnelRead before =>
      exact (Matches.refl kernel).withTunnel (kernel.tunnel.interruptRead_calm before)
  | tunnelWrite before =>
      exact (Matches.refl kernel).withTunnel (kernel.tunnel.interruptWrite_calm before)
  | clientRead label before =>
      exact .setClient_self kernel label ((kernel.client label).interruptRead_calm before)
  | clientWrite label before =>
      exact .setClient_self kernel label ((kernel.client label).interruptWrite_calm before)
  | accept before => exact (Matches.refl kernel).withKnocks (filter_insertIdx rfl before _)

end Kernel

/-! ## What can be seen -/

namespace History

def passedBy : Call → Option Bytes
  | .write .tunnel packet (.ok count) => some (packet.take count)
  | _ => none

def passed (calls : List Call) : List Bytes :=
  calls.reverse.filterMap passedBy

def closedBy : Call → Option Descriptor
  | .close descriptor => some descriptor
  | _ => none

def closed (calls : List Call) : List Descriptor :=
  calls.reverse.filterMap closedBy

end History

/-- What can be seen of a run so far, and what it has left to be read and to be taken. -/
structure View where
  passed : List Bytes
  taken : Nat → Bytes
  got : Nat → Bytes
  closed : List Descriptor
  /-- All calls that had an effect, newest first. -/
  effects : List Call
  roster : Roster
  totals : Totals
  tunnel : Endpoint
  clients : Nat → Endpoint
  knocks : List Knock

namespace Site

def view (site : Site) : View where
  passed := History.passed site.calls
  taken label := History.taken label site.calls
  got label := History.got label site.calls
  closed := History.closed site.calls
  effects := site.kernel.record.effects
  roster := site.relay.roster
  totals := site.relay.totals
  tunnel := site.kernel.tunnel.calm
  clients label := (site.kernel.client label).calm
  knocks := site.kernel.knocks.filter (!·.isInterruption)

end Site

namespace Record

variable {one two : Record} {α : Type}

/-! What idle calls do not show is read off the calls that had an effect. -/

theorem filterMap_same {sees : Call → Option α}
    (blind : ∀ call, call.isIdle = true → sees call = none) (same : one.effects = two.effects) :
    one.calls.reverse.filterMap sees = two.calls.reverse.filterMap sees := by
  have seen (record : Record) :
      record.effects.reverse.filterMap sees = record.calls.reverse.filterMap sees := by
    rw [effects, ← List.filter_reverse]
    exact History.filterMap_kept (fun call idle => blind call (by simpa using idle)) _
  rw [← seen one, same, seen two]

theorem flatMap_same {sees : Call → List α}
    (blind : ∀ call, call.isIdle = true → sees call = []) (same : one.effects = two.effects) :
    one.calls.reverse.flatMap sees = two.calls.reverse.flatMap sees := by
  have seen (record : Record) :
      record.effects.reverse.flatMap sees = record.calls.reverse.flatMap sees := by
    rw [effects, ← List.filter_reverse]
    exact History.flatMap_kept (fun call idle => blind call (by simpa using idle)) _
  rw [← seen one, same, seen two]

end Record

namespace History

variable {call : Call}

theorem passedBy_idle (idle : call.isIdle = true) : passedBy call = none := by
  unfold passedBy
  split
  · cases idle
  · rfl

theorem closedBy_idle (idle : call.isIdle = true) : closedBy call = none := by
  unfold closedBy
  split
  · cases idle
  · rfl

theorem takenBy_idle (label : Nat) (idle : call.isIdle = true) : takenBy label call = [] := by
  unfold takenBy
  split
  · cases idle
  · rfl

theorem readBy_idle (label : Nat) (idle : call.isIdle = true) : readBy label call = [] := by
  unfold readBy
  split
  · cases idle
  · rfl

end History

namespace Site

variable {one two : Site}

theorem Matches.view (same : Matches one two) : one.view = two.view := by
  have effects := same.kernel.record
  have passed : History.passed one.calls = History.passed two.calls :=
    Record.filterMap_same (fun _ => History.passedBy_idle) effects
  have closed : History.closed one.calls = History.closed two.calls :=
    Record.filterMap_same (fun _ => History.closedBy_idle) effects
  have taken (label : Nat) : History.taken label one.calls = History.taken label two.calls :=
    Record.flatMap_same (fun _ => History.takenBy_idle label) effects
  have got (label : Nat) : History.got label one.calls = History.got label two.calls :=
    Record.flatMap_same (fun _ => History.readBy_idle label) effects
  unfold Site.view
  rw [passed, closed, effects, same.relay, same.kernel.tunnel, same.kernel.knocks, funext taken,
    funext got, funext same.kernel.clients]

/-! ## Runs -/

theorem move_concurs (same : Matches one two) (sound : Stage.Sound (.rest one)) (made : Move) :
    Concur Matches (one.move made) (two.move made) := by
  cases made with
  | world deed => exact ⟨rfl, same.relay, same.kernel.undergo deed⟩
  | pass => exact pass_concurs same sound
  | shutdown => exact ⟨rfl, shutdown_matches same⟩

end Site

inductive Event where
  | move (made : Move)
  | interruption (place : Interruption)

def Event.isMove : Event → Bool
  | .move _ => true
  | .interruption _ => false

namespace Site

variable {one two : Site}

def views : List Event → Site → List (Except Failure Unit × View)
  | [], _ => []
  | .move made :: rest, site =>
      ((site.move made).1, (site.move made).2.view) :: (site.move made).2.views rest
  | .interruption place :: rest, site =>
      { site with kernel := site.kernel.interrupt place }.views rest

/-- What a move keeps the same, two runs keep the same. -/
theorem views_concur (events : List Event) (same : Matches one two)
    (sound : Stage.Sound (.rest one)) :
    one.views (events.filter Event.isMove) = two.views events := by
  induction events generalizing one two with
  | nil => rfl
  | cons event rest ih =>
      cases event with
      | move made =>
          obtain ⟨result, after⟩ := move_concurs same sound made
          rw [List.filter_cons_of_pos rfl, views, views, result, after.view,
            ih after (move_sound made sound)]
      | interruption place =>
          rw [List.filter_cons_of_neg Bool.false_ne_true, views]
          exact ih ⟨same.relay, same.kernel.trans (.symm (Kernel.interrupt_matches place _))⟩ sound

/-- A run from the opening on, with interruptions put anywhere at any time, and
the same run without them. Every pass and every shutdown has the same result,
and after it the same can be seen. -/
theorem interruptions_unseen (site : Site) (opened : site.Opened) (events : List Event) :
    site.views events = site.views (events.filter Event.isMove) :=
  (views_concur events (.refl site) opened.sound).symm

/-- Interruptions in every place, some of them where nothing else is to come. A
packet from the first client and one for both pass all the same, and then the
first client leaves. -/
theorem interruptions_unseen_anywhere :
    let site := fresh {}
    let events : List Event := [.interruption (.tunnelRead 0), .move (.world (.connect 2 none)),
      .interruption (.accept 1), .move .pass, .interruption (.accept 0),
      .move (.world (.supplyClient 1 { inbound := [.data [0, 0, 0], .data [1, 9]] })),
      .interruption (.clientRead 1 0), .interruption (.clientRead 1 2),
      .interruption (.clientRead 2 0), .interruption (.tunnelWrite 0), .move .pass,
      .move (.world (.supplyTunnel { inbound := [.data [7]] })),
      .move (.world (.supplyClient 2 { outbound := [.upTo 2, .upTo 3] })),
      .interruption (.tunnelRead 1), .interruption (.clientWrite 2 0),
      .interruption (.clientWrite 2 2), .move .pass,
      .move (.world (.supplyClient 1 { inbound := [.ended] })), .interruption (.clientRead 1 0),
      .move .pass, .move .shutdown]
    let late := (site.views events)[8]?
    (site.Opened ∧ late.map (·.2.passed) = some [[9]] ∧
      late.map (·.2.taken 2) = some [0, 0, 0, 1, 7] ∧ late.map (·.2.closed) = some [.client 1]) ∧
      site.views events = site.views (events.filter Event.isMove) := by
  intro site events late
  refine ⟨⟨fresh_opened {}, ?_⟩, interruptions_unseen site (fresh_opened {}) events⟩
  decide +kernel

end Site
end PacketRelay
