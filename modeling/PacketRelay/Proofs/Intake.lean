import PacketRelay.Proofs.Dispatch
import PacketRelay.Proofs.Owning

/-!
What serving the channel comes to, entry by entry of the queue. Main statement: it
takes the entries up to the first error that is no interruption, or all of them if
there is none, and each connection among them gets the next id unless its switch to
non-blocking fails; the rest stays queued.
-/

namespace PacketRelay

open Kernel (Call Knock)

namespace Kernel.Knock

/-- An entry after which no more are taken: an error that is no interruption, or a
connection that cannot be switched to non-blocking. -/
def stops : Knock → Bool
  | .connection _ fault => fault.isSome
  | .failure errno => errno ≠ .interrupted

def admitted? : Knock → Option Nat
  | .connection label none => some label
  | _ => none

def calls (size : Nat) (fault : Option Errno) : Knock → List Call
  | .connection label none =>
      [.accept (.ok label), .unblock (.client label) none,
        .resize (.client label) .receive (Int.bmod size 4294967296) fault,
        .resize (.client label) .send (Int.bmod size 4294967296) fault]
  | .connection label (some errno) =>
      [.accept (.ok label), .unblock (.client label) (some errno), .close (.client label)]
  | .failure errno => [.accept (.error errno)]

def served : List Knock → List Knock
  | [] => []
  | knock :: rest => if knock.stops then [knock] else knock :: served rest

def unserved : List Knock → List Knock
  | [] => []
  | knock :: rest => if knock.stops then rest else unserved rest

/-- When nothing has stopped it, the last accept finds the queue empty. -/
def lastCall (taken : List Knock) : List Call :=
  if taken.any stops then [] else [.accept (.error .again)]

structure Burst (queue taken left : List Knock) : Prop where
  split : queue = taken ++ left
  going : ∀ knock ∈ taken.dropLast, knock.stops = false
  ended : left = [] ∨ ∃ last, taken.getLast? = some last ∧ last.stops = true

theorem admitted?_of_stops {knock : Knock} (stops : knock.stops = true) :
    knock.admitted? = none := by
  cases knock with
  | connection label fault =>
      cases fault with
      | none => cases stops
      | some errno => rfl
  | failure errno => rfl

theorem served_burst (queue : List Knock) : Burst queue (served queue) (unserved queue) := by
  induction queue with
  | nil => exact ⟨rfl, by simp [served], .inl rfl⟩
  | cons knock rest ih =>
      obtain ⟨split, going, ended⟩ := ih
      by_cases stopping : knock.stops = true
      · simp only [served, unserved, if_pos stopping]
        exact ⟨rfl, by simp, .inr ⟨knock, rfl, stopping⟩⟩
      · simp only [served, unserved, if_neg stopping]
        refine ⟨congrArg (knock :: ·) split, ?_, ?_⟩
        · cases later : served rest with
          | nil => simp
          | cons next others =>
              rw [later] at going
              exact List.forall_mem_cons.mpr ⟨by simpa using stopping, going⟩
        · rcases ended with nothing | ⟨last, isLast, stops⟩
          · exact .inl nothing
          · exact .inr ⟨last, by rw [List.getLast?_cons, isLast]; rfl, stops⟩

end Kernel.Knock

open Kernel.Knock (served unserved lastCall admitted? Burst)

def Relay.join (labels : List Nat) (relay : Relay) : Relay :=
  { relay with
    roster :=
      { sessions := relay.roster.sessions ++ labels.mapIdx fun index label =>
          { id := relay.roster.issued + 1 + index, label }
        issued := relay.roster.issued + labels.length }
    connections := relay.connections + labels.length }

theorem Relay.join_nil (relay : Relay) : relay.join [] = relay := by
  simp [join]

theorem Relay.join_append (first later : List Nat) (relay : Relay) :
    relay.join (first ++ later) = (relay.join first).join later := by
  simp only [join, List.mapIdx_append, List.length_append, List.append_assoc, Nat.add_assoc,
    Nat.add_comm, Nat.add_left_comm]

namespace Site

variable {site : Site}

theorem enroll_relay (label : Nat) (site : Site) :
    (site.enroll label).relay = site.relay.join [label] := by
  simp [enroll, Roster.insert, Relay.join]

/-- Where serving the channel leads when these entries are queued. -/
structure Takes (queue : List Knock) (before after : Site) : Prop where
  relay : after.relay = before.relay.join ((served queue).filterMap admitted?)
  knocks : after.kernel.knocks = unserved queue
  calls : after.calls = ((served queue).flatMap
      (Kernel.Knock.calls before.relay.channel.bufferSize before.kernel.faults.resize) ++
        lastCall (served queue)).reverse ++ before.calls

namespace Takes

variable {knock : Knock} {rest : List Knock} {before next after : Site}

/-- An entry that does not stop the serving is followed by the others. -/
theorem cons (going : knock.stops = false)
    (relay : next.relay = before.relay.join ([knock].filterMap admitted?))
    (faults : next.kernel.faults = before.kernel.faults)
    (calls : next.calls = (knock.calls before.relay.channel.bufferSize
      before.kernel.faults.resize).reverse ++ before.calls)
    (later : Takes rest next after) : Takes (knock :: rest) before after := by
  have taken : served (knock :: rest) = knock :: served rest := by simp [served, going]
  constructor
  · rw [later.relay, relay, taken, ← Relay.join_append, ← List.filterMap_append]
    rfl
  · rw [later.knocks]
    simp [unserved, going]
  · have size : next.relay.channel.bufferSize = before.relay.channel.bufferSize := by
      rw [relay]
      rfl
    have last : lastCall (knock :: served rest) = lastCall (served rest) := by
      simp [lastCall, going]
    rw [later.calls, calls, size, faults, taken, last]
    simp

theorem stopped (stops : knock.stops = true) (relay : after.relay = before.relay)
    (knocks : after.kernel.knocks = rest)
    (calls : after.calls = (knock.calls before.relay.channel.bufferSize
      before.kernel.faults.resize).reverse ++ before.calls) :
    Takes (knock :: rest) before after := by
  have taken : served (knock :: rest) = [knock] := by simp [served, stops]
  have nobody : [knock].filterMap admitted? = [] := by
    rw [List.filterMap_cons_none (Kernel.Knock.admitted?_of_stops stops), List.filterMap_nil]
  constructor
  · rw [taken, nobody, Relay.join_nil, relay]
  · rw [knocks]
    simp [unserved, stops]
  · rw [taken, calls]
    simp [lastCall, stops]

end Takes

theorem accept_listening {channel : Channel} (listening : channel.isOpen = true)
    (kernel : Kernel) : channel.accept kernel =
      match kernel.accept with
      | (.ok (label, fault), after) => Channel.prepare channel.bufferSize label fault after
      | (.error errno, after) =>
          if errno = .again then (.ok none, after)
          else if errno = .interrupted then channel.accept after
          else (.error errno, after) := by
  simp only [Channel.accept, if_pos listening]
  exact Channel.take_unfolds channel.bufferSize kernel

theorem acceptClients_interrupted {kernel : Kernel} (listening : site.relay.channel.isOpen = true)
    (interrupted : site.kernel.accept = (.error .interrupted, kernel)) :
    site.acceptClients = ({ site with kernel } : Site).acceptClients := by
  have skipped : site.relay.channel.accept site.kernel = site.relay.channel.accept kernel := by
    rw [accept_listening listening, interrupted]
    rfl
  rw [acceptClients_unfolds, acceptClients_unfolds { site with kernel }, skipped]

theorem acceptClients_takes {queue : List Knock} (site : Site)
    (queued : site.kernel.knocks = queue) (listening : site.relay.channel.isOpen = true) :
    Takes queue site site.acceptClients := by
  -- The loop takes one entry in each round, so the induction is on the queue.
  induction queue generalizing site with
  | nil =>
      have unfolded := site.acceptClients_unfolds
      rw [accept_listening listening] at unfolded
      simp only [Kernel.accept, queued, if_true] at unfolded
      rw [unfolded]
      exact ⟨(Relay.join_nil _).symm, queued, rfl⟩
  | cons knock rest ih =>
      have unfolded := site.acceptClients_unfolds
      rw [accept_listening listening] at unfolded
      simp only [Kernel.accept, queued] at unfolded
      cases knock with
      | connection label fault =>
          cases fault with
          | none =>
              simp only [Channel.prepare, Kernel.unblock, Channel.enlarge_eq] at unfolded
              rw [unfolded]
              refine .cons rfl ?_ ?_ ?_ (ih _ ?_ ?_)
              · exact enroll_relay _ _
              · rfl
              · rfl
              · rfl
              · exact listening
          | some errno =>
              simp only [Channel.prepare, Kernel.unblock] at unfolded
              rw [unfolded]
              exact .stopped rfl rfl rfl rfl
      | failure errno =>
          by_cases interrupted : errno = .interrupted
          · rw [interrupted] at queued ⊢
            have skipped : site.kernel.accept = (.error .interrupted,
                Kernel.call { site.kernel with knocks := rest }
                  (.accept (.error .interrupted))) := by
              rw [Kernel.accept, queued]
            rw [acceptClients_interrupted listening skipped]
            refine .cons rfl ?_ ?_ ?_ (ih _ ?_ ?_)
            · exact (Relay.join_nil _).symm
            · rfl
            · rfl
            · rfl
            · exact listening
          · have stops : (Knock.failure errno).stops = true := decide_eq_true interrupted
            by_cases again : errno = .again
            · simp only [if_pos again] at unfolded
              rw [unfolded]
              exact .stopped stops rfl rfl rfl
            · simp only [if_neg again, if_neg interrupted] at unfolded
              rw [unfolded]
              exact .stopped stops rfl rfl rfl

/-- The channel has been served. Whether buffer sizes can be changed makes no difference
to who is taken and to who gets which id. -/
structure Intake (before after : Site) : Prop extends
    Takes before.kernel.knocks before after where
  burst : Burst before.kernel.knocks (served before.kernel.knocks) after.kernel.knocks
  resizing : ∀ fault, let other := (before.undergo (.failResize fault)).acceptClients
    other.relay = after.relay ∧ other.kernel.knocks = after.kernel.knocks

theorem acceptClients_intake (listening : site.relay.channel.isOpen = true) :
    Intake site site.acceptClients := by
  have takes := acceptClients_takes site rfl listening
  have burst := Kernel.Knock.served_burst site.kernel.knocks
  rw [← takes.knocks] at burst
  refine ⟨takes, burst, fun fault => ?_⟩
  have also := acceptClients_takes (site.undergo (.failResize fault)) rfl listening
  exact ⟨also.relay.trans takes.relay.symm, also.knocks.trans takes.knocks.symm⟩

end Site

/-! ## On the record -/

namespace Kernel.Knock

open History (acceptedBy enrolledBy accepted enrolled)

theorem filterMap_calls {see : Call → Option Nat} {part : Knock → Option Nat} {size : Nat}
    {fault : Option Errno}
    (own : ∀ knock, (calls size fault knock).filterMap see = (part knock).toList)
    (taken : List Knock) :
    (taken.flatMap (calls size fault)).filterMap see = taken.filterMap part := by
  induction taken with
  | nil => rfl
  | cons knock rest ih =>
      rw [List.flatMap_cons, List.filterMap_append, ih, own]
      cases same : part knock with
      | none => rw [List.filterMap_cons_none same]; rfl
      | some label => rw [List.filterMap_cons_some same]; rfl

theorem calls_accepted (size : Nat) (fault : Option Errno) (knock : Knock) :
    (calls size fault knock).filterMap acceptedBy = knock.label?.toList := by
  cases knock with
  | connection label refusal => cases refusal <;> rfl
  | failure errno => rfl

theorem calls_enrolled (size : Nat) (fault : Option Errno) (knock : Knock) :
    (calls size fault knock).filterMap enrolledBy = knock.admitted?.toList := by
  cases knock with
  | connection label refusal => cases refusal <;> rfl
  | failure errno => rfl

theorem lastCall_silent {see : Call → Option Nat} (silent : see (.accept (.error .again)) = none)
    (taken : List Knock) : (lastCall taken).filterMap see = [] := by
  unfold lastCall
  split
  · rfl
  · rw [List.filterMap_cons_none silent, List.filterMap_nil]

end Kernel.Knock

namespace Site.Takes

open History (accepted enrolled)

variable {queue : List Knock} {before after : Site}

theorem accepted_eq (takes : Takes queue before after) :
    accepted after.calls = accepted before.calls ++
      (served queue).filterMap Kernel.Knock.label? := by
  rw [takes.calls, History.accepted_append]
  congr 1
  rw [accepted, List.reverse_reverse, List.filterMap_append,
    Kernel.Knock.filterMap_calls (Kernel.Knock.calls_accepted _ _),
    Kernel.Knock.lastCall_silent rfl, List.append_nil]

theorem enrolled_eq (takes : Takes queue before after) :
    enrolled after.calls = enrolled before.calls ++ (served queue).filterMap admitted? := by
  rw [takes.calls, History.enrolled_append]
  congr 1
  rw [enrolled, List.reverse_reverse, List.filterMap_append,
    Kernel.Knock.filterMap_calls (Kernel.Knock.calls_enrolled _ _),
    Kernel.Knock.lastCall_silent rfl, List.append_nil]

/-- Whoever cannot be switched to non-blocking is closed at once. -/
theorem refused (takes : Takes queue before after) {label : Nat} {errno : Errno}
    (taken : .connection label (some errno) ∈ served queue) :
    [.close (.client label), .unblock (.client label) (some errno), .accept (.ok label)] <:+:
      after.calls := by
  have inside := List.infix_of_mem_flatten (List.mem_map_of_mem
    (f := Kernel.Knock.calls before.relay.channel.bufferSize before.kernel.faults.resize) taken)
  rw [← List.flatMap_def] at inside
  rw [takes.calls]
  exact List.infix_append_of_infix_left
    (List.reverse_infix.mpr (List.infix_append_of_infix_left inside))

end Site.Takes
end PacketRelay
