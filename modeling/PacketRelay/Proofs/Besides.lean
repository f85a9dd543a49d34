import PacketRelay.Proofs.Forwarding
import PacketRelay.Proofs.Moves

/-!
What there is besides one client. Two records are alike when they differ only in
the calls that the client may sway, in whether the tunnel took the packets of
the others, and in when the client was parted from. Two sites are alike when
their records are and everything else that the others depend on is the same.
-/

namespace PacketRelay

open Kernel (Call Endpoint)

/-- What a client does may change these calls, or whether they are made at all. -/
def Kernel.Call.swayedBy (label : Nat) : Call → Bool
  | .read descriptor .. | .close descriptor => descriptor = .client label
  | .write descriptor .. => descriptor = .client label || descriptor = .tunnel
  | .poll .. => true
  | _ => false

def Kernel.Call.submits : Call → Bool
  | .write .tunnel .. => true
  | _ => false

theorem Kernel.Handle.attempts_silent {α : Type} {call : Except Errno α → Call}
    {result : Except Errno α} {interruptions : Nat}
    (silent : ∀ result, (call result).submits = false) :
    ∀ made ∈ attempts call result interruptions, made.submits = false := by
  intro made member
  rcases List.mem_cons.mp member with rfl | retried
  · exact silent result
  · rw [List.eq_of_mem_replicate retried]
    exact silent _

namespace History

variable {label other : Nat} {new calls : List Call}

def besides (label : Nat) (calls : List Call) : List Call :=
  calls.filter fun call => !call.swayedBy label

theorem besides_append (label : Nat) (new calls : List Call) :
    besides label (new ++ calls) = besides label new ++ besides label calls :=
  List.filter_append ..

theorem besides_eq_nil (swayed : ∀ call ∈ new, call.swayedBy label = true) :
    besides label new = [] := by
  simpa [besides, List.filter_eq_nil_iff] using swayed

theorem swayed_client {call : Call} (swayed : call.swayedBy label = true)
    (different : other ≠ label) :
    call.client? ≠ some other := by
  unfold Kernel.Call.swayedBy at swayed
  split at swayed
  · rw [of_decide_eq_true swayed]
    exact fun same => different (Option.some.inj same).symm
  · rw [of_decide_eq_true swayed]
    exact fun same => different (Option.some.inj same).symm
  · rcases Bool.or_eq_true_iff.mp swayed with own | tunnel
    · rw [of_decide_eq_true own]
      exact fun same => different (Option.some.inj same).symm
    · rw [of_decide_eq_true tunnel]
      rintro ⟨⟩
  · rintro ⟨⟩
  · cases swayed

/-! What is read off the calls on another client alone is read off those besides. -/

theorem filter_besides {sees : Call → Bool}
    (blind : ∀ call, call.swayedBy label = true → sees call = false) (calls : List Call) :
    (besides label calls).filter sees = calls.filter sees := by
  rw [besides, List.filter_filter]
  apply List.filter_congr
  intro call _
  cases swayed : call.swayedBy label with
  | false => simp
  | true => simp [blind call swayed]

/-! What shows nothing may be left out. -/

theorem filterMap_kept {α β : Type} {keeps : β → Bool} {sees : β → Option α}
    (blind : ∀ entry, keeps entry = false → sees entry = none) (entries : List β) :
    (entries.filter keeps).filterMap sees = entries.filterMap sees := by
  rw [List.filterMap_filter]
  apply congrArg (List.filterMap · entries)
  funext entry
  cases kept : keeps entry with
  | false => exact (blind entry kept).symm
  | true => rfl

theorem flatMap_kept {α β : Type} {keeps : β → Bool} {sees : β → List α}
    (blind : ∀ entry, keeps entry = false → sees entry = []) (entries : List β) :
    (entries.filter keeps).flatMap sees = entries.flatMap sees := by
  induction entries with
  | nil => rfl
  | cons entry rest ih =>
      cases kept : keeps entry with
      | false =>
          rw [List.filter_cons_of_neg (by simp [kept]), List.flatMap_cons, blind entry kept, ih]
          rfl
      | true => rw [List.filter_cons_of_pos kept, List.flatMap_cons, List.flatMap_cons, ih]

theorem filterMap_besides {α : Type} {sees : Call → Option α}
    (blind : ∀ call, call.swayedBy label = true → sees call = none) (calls : List Call) :
    (besides label calls).filterMap sees = calls.filterMap sees :=
  filterMap_kept (fun call swayed => blind call (by simpa using swayed)) calls

theorem flatMap_besides {α : Type} {sees : Call → List α}
    (blind : ∀ call, call.swayedBy label = true → sees call = []) (calls : List Call) :
    (besides label calls).reverse.flatMap sees = calls.reverse.flatMap sees := by
  rw [besides, ← List.filter_reverse]
  exact flatMap_kept (fun call swayed => blind call (by simpa using swayed)) calls.reverse

theorem enrolled_besides (label : Nat) (calls : List Call) :
    enrolled (besides label calls) = enrolled calls := by
  simp only [enrolled, List.filterMap_reverse]
  congr 1
  apply filterMap_besides
  intro call swayed
  unfold Kernel.Call.swayedBy at swayed
  split at swayed <;> first | rfl | cases swayed

theorem taken_besides (different : other ≠ label) (calls : List Call) :
    taken other (besides label calls) = taken other calls :=
  flatMap_besides (fun _ swayed => takenBy_other (swayed_client swayed different)) calls

theorem readBy_other {call : Call} (different : call.client? ≠ some other) :
    readBy other call = [] := by
  unfold readBy
  split
  · next client size bytes =>
      exact if_neg fun same : client = other => different (same ▸ rfl)
  · rfl

theorem got_besides (different : other ≠ label) (calls : List Call) :
    got other (besides label calls) = got other calls :=
  flatMap_besides (fun _ swayed => readBy_other (swayed_client swayed different)) calls

/-! ## Packets offered -/

theorem offered_silent (silent : ∀ call ∈ new, call.submits = false) :
    offered label (new ++ calls) = offered label calls := by
  induction new with
  | nil => rfl
  | cons call rest ih =>
      have quiet := silent call List.mem_cons_self
      rw [List.cons_append, offered, ih fun other member =>
        silent other (List.mem_cons_of_mem call member)]
      rintro packet result rfl
      cases quiet

/-! ## Partings -/

def partingFrom (id : Nat) : Log.Notice → Option Parting
  | .parted other parting => if other = id then some parting else none
  | _ => none

def partings (id : Nat) (notices : List Log.Notice) : List Parting :=
  notices.filterMap (partingFrom id)

theorem partings_append (id : Nat) (news notices : List Log.Notice) :
    partings id (news ++ notices) = partings id news ++ partings id notices :=
  List.filterMap_append ..

theorem partings_plain {news : List Log.Notice} (id : Nat)
    (plain : ∀ notice ∈ news, notice.isParting = false) : partings id news = [] := by
  apply List.filterMap_eq_nil_iff.mpr
  intro notice member
  have quiet := plain notice member
  unfold partingFrom
  split
  · cases quiet
  · rfl

end History

open History (besides named offered partings)

/-! ## Alike records -/

/-- The records of two runs that differ only in what one client does. -/
structure Record.Alike (label : Nat) (one two : Record) : Prop where
  calls : besides label one.calls = besides label two.calls
  offered : ∀ other ≠ label, offered other one.calls = offered other two.calls
  partings : ∀ id, named one.calls id ≠ some label →
    partings id one.notices = partings id two.notices

namespace Record.Alike

variable {label : Nat} {one two three later after : Record}

theorem refl (label : Nat) (record : Record) : Alike label record record :=
  ⟨rfl, fun _ _ => rfl, fun _ _ => rfl⟩

theorem enrolled (alike : Alike label one two) :
    History.enrolled one.calls = History.enrolled two.calls := by
  rw [← History.enrolled_besides label one.calls, alike.calls, History.enrolled_besides]

theorem named (alike : Alike label one two) (id : Nat) :
    History.named one.calls id = History.named two.calls id := by
  cases id with
  | zero => rfl
  | succ id => simp only [History.named, alike.enrolled]

theorem symm (alike : Alike label one two) : Alike label two one where
  calls := alike.calls.symm
  offered other different := (alike.offered other different).symm
  partings id unnamed := (alike.partings id (alike.named id ▸ unnamed)).symm

theorem trans (first : Alike label one two) (second : Alike label two three) :
    Alike label one three where
  calls := first.calls.trans second.calls
  offered other different := (first.offered other different).trans (second.offered other different)
  partings id unnamed :=
    (first.partings id unnamed).trans (second.partings id (first.named id ▸ unnamed))

theorem onto (alike : Alike label one two)
    (calls : besides label later.calls = besides label after.calls)
    (offered : ∀ other ≠ label, History.offered other (later.calls ++ one.calls) =
      History.offered other (after.calls ++ two.calls))
    (partings : ∀ id, History.named (later.calls ++ one.calls) id ≠ some label →
      History.partings id later.notices = History.partings id after.notices) :
    Alike label (later.onto one) (after.onto two) where
  calls := by
    rw [onto_calls, onto_calls, History.besides_append, History.besides_append, calls, alike.calls]
  offered := offered
  partings id unnamed := by
    have earlier : History.named one.calls id ≠ some label := fun name =>
      unnamed (History.named_append later.calls name)
    change History.partings id (later.notices ++ one.notices) =
      History.partings id (after.notices ++ two.notices)
    rw [History.partings_append, History.partings_append, partings id unnamed,
      alike.partings id earlier]

theorem same (alike : Alike label one two) (new : Record)
    (silent : ∀ call ∈ new.calls, call.submits = false) :
    Alike label (new.onto one) (new.onto two) := by
  apply alike.onto rfl _ (fun _ _ => rfl)
  intro other different
  rw [History.offered_silent silent, History.offered_silent silent]
  exact alike.offered other different

theorem call (alike : Alike label one two) (made : Call) (silent : made.submits = false) :
    Alike label (one.call made) (two.call made) :=
  alike.same ⟨[made], []⟩ (by simpa using silent)

theorem aside {before : Record} (new : List Call) (news : List Log.Notice)
    (calls : later.calls = new ++ before.calls) (notices : later.notices = news ++ before.notices)
    (swayed : ∀ call ∈ new, call.swayedBy label = true)
    (offered : ∀ other ≠ label,
      History.offered other later.calls = History.offered other before.calls)
    (plain : ∀ notice ∈ news, notice.isParting = false) : Alike label later before where
  calls := by rw [calls, History.besides_append, History.besides_eq_nil swayed, List.nil_append]
  offered := offered
  partings id _ := by
    rw [notices, History.partings_append, History.partings_plain id plain, List.nil_append]

theorem quiet {before : Record} (new : List Call) (calls : later.calls = new ++ before.calls)
    (notices : later.notices = before.notices)
    (swayed : ∀ call ∈ new, call.swayedBy label = true)
    (silent : ∀ call ∈ new, call.submits = false) : Alike label later before := by
  apply aside new [] calls notices swayed _ (by simp)
  intro other _
  rw [calls, History.offered_silent silent]

theorem noted (label : Nat) (record : Record) {notice : Log.Notice}
    (plain : notice.isParting = false) : Alike label (record.note notice) record :=
  aside [] [notice] rfl rfl (by simp) (fun _ _ => rfl) (by simpa using plain)

theorem note (alike : Alike label one two) {notice other : Log.Notice}
    (plain : notice.isParting = false) (also : other.isParting = false) :
    Alike label (one.note notice) (two.note other) :=
  ((noted label one plain).trans alike).trans (noted label two also).symm

end Record.Alike

/-! ## Alike kernels -/

/-- Two far sides that differ at most in how much of each write they take. -/
structure Kernel.Endpoint.Alike (one two : Endpoint) : Prop where
  inbound : one.inbound = two.inbound
  forced : one.forced = two.forced

def Kernel.bare (kernel : Kernel) : Kernel :=
  { kernel with tunnel := {}, clients := [], record := {} }

structure Kernel.Alike (label : Nat) (one two : Kernel) : Prop where
  tunnel : one.tunnel.Alike two.tunnel
  clients : ∀ other ≠ label, one.client other = two.client other
  bare : one.bare = two.bare
  record : one.record.Alike label two.record

namespace Kernel.Alike

variable {label : Nat} {one two three : Kernel}

theorem refl (label : Nat) (kernel : Kernel) : Alike label kernel kernel :=
  ⟨⟨rfl, rfl⟩, fun _ _ => rfl, rfl, .refl label _⟩

theorem symm (alike : Alike label one two) : Alike label two one where
  tunnel := ⟨alike.tunnel.inbound.symm, alike.tunnel.forced.symm⟩
  clients other different := (alike.clients other different).symm
  bare := alike.bare.symm
  record := alike.record.symm

theorem trans (first : Alike label one two) (second : Alike label two three) :
    Alike label one three where
  tunnel := ⟨first.tunnel.inbound.trans second.tunnel.inbound,
    first.tunnel.forced.trans second.tunnel.forced⟩
  clients other different := (first.clients other different).trans (second.clients other different)
  bare := first.bare.trans second.bare
  record := first.record.trans second.record

theorem withRecord (alike : Alike label one two) {left right : Record}
    (record : left.Alike label right) :
    Alike label { one with record := left } { two with record := right } :=
  ⟨alike.tunnel, alike.clients, alike.bare, record⟩

theorem call (alike : Alike label one two) (made : Call) (silent : made.submits = false) :
    Alike label (one.call made) (two.call made) :=
  alike.withRecord (alike.record.call made silent)

theorem note (alike : Alike label one two) {notice other : Log.Notice}
    (plain : notice.isParting = false) (also : other.isParting = false) :
    Alike label (one.note notice) (two.note other) :=
  alike.withRecord (alike.record.note plain also)

theorem own (kernel : Kernel) (label : Nat) (endpoint : Endpoint) :
    Alike label (kernel.setClient label endpoint) kernel where
  tunnel := ⟨rfl, rfl⟩
  clients other different := by rw [client_setClient, if_neg different]
  bare := rfl
  record := .refl label _

theorem setClient (alike : Alike label one two) (client : Nat) (endpoint : Endpoint) :
    Alike label (one.setClient client endpoint) (two.setClient client endpoint) where
  tunnel := alike.tunnel
  clients other different := by
    rw [client_setClient, client_setClient, alike.clients other different]
  bare := alike.bare
  record := alike.record

theorem knocks (alike : Alike label one two) : one.knocks = two.knocks := by
  have same := congrArg Kernel.knocks alike.bare
  exact same

theorem faults (alike : Alike label one two) : one.faults = two.faults := by
  have same := congrArg Kernel.faults alike.bare
  exact same

theorem pollFaults (alike : Alike label one two) : one.pollFaults = two.pollFaults := by
  have same := congrArg Kernel.pollFaults alike.bare
  exact same

theorem channelForced (alike : Alike label one two) : one.channelForced = two.channelForced := by
  have same := congrArg Kernel.channelForced alike.bare
  exact same

theorem files (alike : Alike label one two) : one.files = two.files := by
  have same := congrArg Kernel.files alike.bare
  exact same

theorem change (alike : Alike label one two) (change : Kernel → Kernel)
    (regardless : ∀ kernel, (change kernel).bare = change kernel.bare)
    (tunnel : ∀ kernel, (change kernel).tunnel = kernel.tunnel)
    (clients : ∀ kernel, (change kernel).client = kernel.client)
    (record : ∀ kernel, (change kernel).record = kernel.record) :
    Alike label (change one) (change two) where
  tunnel := by
    rw [tunnel, tunnel]
    exact alike.tunnel
  clients other different := by
    rw [clients, clients]
    exact alike.clients other different
  bare := by rw [regardless, regardless, alike.bare]
  record := by
    rw [record, record]
    exact alike.record

end Kernel.Alike

/-! ## Lists with the same in them -/

/-- What `sees` sees of one list is what it sees of the other, in the same order. -/
inductive Interleaved {α β : Type} (sees : α → Option β) : List α → List α → Prop
  | nil : Interleaved sees [] []
  | both {x y : α} {seen : β} {xs ys : List α} (left : sees x = some seen)
      (right : sees y = some seen) (rest : Interleaved sees xs ys) :
      Interleaved sees (x :: xs) (y :: ys)
  | left {x : α} {xs ys : List α} (unseen : sees x = none) (rest : Interleaved sees xs ys) :
      Interleaved sees (x :: xs) ys
  | right {y : α} {xs ys : List α} (unseen : sees y = none) (rest : Interleaved sees xs ys) :
      Interleaved sees xs (y :: ys)

theorem Interleaved.of_filterMap {α β : Type} {sees : α → Option β} {xs ys : List α}
    (same : xs.filterMap sees = ys.filterMap sees) : Interleaved sees xs ys := by
  -- What is not seen is passed one at a time, in the first list before the second.
  induction xs generalizing ys with
  | nil =>
      induction ys with
      | nil => exact .nil
      | cons y ys ih =>
          cases seen : sees y with
          | none => exact .right seen (ih (by simpa [seen] using same))
          | some value => simp [seen] at same
  | cons x xs outer =>
      cases seen : sees x with
      | none => exact .left seen (outer (by simpa [seen] using same))
      | some value =>
          induction ys with
          | nil => simp [seen] at same
          | cons y ys ih =>
              cases also : sees y with
              | none => exact .right also (ih (by simpa [also] using same))
              | some other =>
                  simp only [List.filterMap_cons, seen, also, List.cons.injEq] at same
                  obtain ⟨rfl, later⟩ := same
                  exact .both seen also (outer later)

/-! ## Alike sites -/

def Session.bare (session : Session) : Session :=
  { session with tally.forwarded := 0 }

def Session.besides (label : Nat) (session : Session) : Option Session :=
  if session.label = label then none else some session.bare

def others (label : Nat) (sessions : List Session) : List Session :=
  sessions.filterMap (Session.besides label)

/-- The relay without the client's session and without what only totals depend on. -/
def Relay.besides (label : Nat) (relay : Relay) : Relay :=
  { relay with retired := {}, roster.sessions := others label relay.roster.sessions }

structure Site.Alike (label : Nat) (one two : Site) : Prop where
  relay : one.relay.besides label = two.relay.besides label
  kernel : one.kernel.Alike label two.kernel

theorem Session.eq_of_bare {one two : Session} (same : one.bare = two.bare) :
    ∃ n, two = { one with tally.forwarded := n } := by
  obtain ⟨id, label, decoder, connected, pending, ⟨_, _, _, _⟩⟩ := one
  obtain ⟨id', label', decoder', connected', pending', ⟨_, _, _, _⟩⟩ := two
  simp only [bare, Session.mk.injEq, Tally.mk.injEq] at same
  obtain ⟨rfl, rfl, rfl, rfl, rfl, rfl, _, rfl, rfl⟩ := same
  exact ⟨_, rfl⟩

theorem Session.besides_some {label : Nat} {session seen : Session}
    (sees : session.besides label = some seen) : session.label ≠ label ∧ session.bare = seen := by
  unfold Session.besides at sees
  split at sees
  · cases sees
  · next different => exact ⟨different, Option.some.inj sees⟩

theorem Session.besides_none {label : Nat} {session : Session}
    (unseen : session.besides label = none) : session.label = label := by
  unfold Session.besides at unseen
  split at unseen
  · next same => exact same
  · cases unseen

section

variable {label id : Nat} {sessions : List Session} {session : Session}

theorem find?_others (different : ∀ session ∈ sessions, session.id = id → session.label ≠ label) :
    (others label sessions).find? (·.id = id) = (sessions.find? (·.id = id)).map Session.bare := by
  induction sessions with
  | nil => rfl
  | cons first rest ih =>
      have later := ih fun session member => different session (List.mem_cons_of_mem first member)
      by_cases own : first.label = label
      · have passed : first.id ≠ id := fun same => different first List.mem_cons_self same own
        simpa [others, Session.besides, own, passed] using later
      · by_cases found : first.id = id
        · simp [others, Session.besides, own, Session.bare, found]
        · simpa [others, Session.besides, own, Session.bare, found] using later

theorem others_update_own (own : session.label = label)
    (sameLabel : ∀ old ∈ sessions, old.id = session.id → old.label = label) :
    others label (sessions.map fun old => if old.id = session.id then session else old) =
      others label sessions := by
  induction sessions with
  | nil => rfl
  | cons first rest ih =>
      have later := ih fun old member => sameLabel old (List.mem_cons_of_mem first member)
      by_cases same : first.id = session.id
      · simpa [others, Session.besides, same, own, sameLabel first List.mem_cons_self same]
          using later
      · by_cases firstOwn : first.label = label <;>
          simpa [others, Session.besides, same, firstOwn] using later

theorem others_update (different : session.label ≠ label)
    (sameLabel : ∀ old ∈ sessions, old.id = session.id → old.label ≠ label) :
    others label (sessions.map fun old => if old.id = session.id then session else old) =
      (others label sessions).map fun old => if old.id = session.id then session.bare else old := by
  induction sessions with
  | nil => rfl
  | cons first rest ih =>
      have later := ih fun old member => sameLabel old (List.mem_cons_of_mem first member)
      by_cases same : first.id = session.id
      · simpa [others, Session.besides, same, different, sameLabel first List.mem_cons_self same,
          Session.bare] using later
      · by_cases own : first.label = label <;>
          simpa [others, Session.besides, same, own, Session.bare] using later

theorem others_without (label id : Nat) (sessions : List Session) :
    others label (sessions.filter (·.id ≠ id)) = (others label sessions).filter (·.id ≠ id) := by
  induction sessions with
  | nil => rfl
  | cons first rest ih =>
      by_cases same : first.id = id <;> by_cases own : first.label = label <;>
        simpa [others, Session.besides, same, own, Session.bare] using ih

theorem others_without_own (own : ∀ session ∈ sessions, session.id = id → session.label = label) :
    others label (sessions.filter (·.id ≠ id)) = others label sessions := by
  induction sessions with
  | nil => rfl
  | cons first rest ih =>
      have later := ih fun session member => own session (List.mem_cons_of_mem first member)
      by_cases same : first.id = id
      · simpa [others, Session.besides, same, own first List.mem_cons_self same] using later
      · by_cases firstOwn : first.label = label <;>
          simpa [others, Session.besides, same, firstOwn] using later

end

namespace Site.Alike

variable {label : Nat} {one two three : Site}

theorem refl (label : Nat) (site : Site) : Alike label site site :=
  ⟨rfl, .refl label _⟩

theorem symm (alike : Alike label one two) : Alike label two one :=
  ⟨alike.relay.symm, alike.kernel.symm⟩

theorem trans (first : Alike label one two) (second : Alike label two three) :
    Alike label one three :=
  ⟨first.relay.trans second.relay, first.kernel.trans second.kernel⟩

theorem note (alike : Alike label one two) {notice other : Log.Notice}
    (plain : notice.isParting = false) (also : other.isParting = false) :
    Alike label (one.note notice) (two.note other) :=
  ⟨alike.relay, alike.kernel.note plain also⟩

theorem noted (label : Nat) (site : Site) {notice : Log.Notice}
    (plain : notice.isParting = false) : Alike label (site.note notice) site :=
  ⟨rfl, (Kernel.Alike.refl label _).withRecord (.noted label _ plain)⟩

theorem others (alike : Alike label one two) :
    others label one.relay.roster.sessions = PacketRelay.others label two.relay.roster.sessions :=
  congrArg (·.roster.sessions) alike.relay

theorem tunnel (alike : Alike label one two) : one.relay.tunnel = two.relay.tunnel := by
  have same := congrArg Relay.tunnel alike.relay
  exact same

theorem channel (alike : Alike label one two) : one.relay.channel = two.relay.channel := by
  have same := congrArg Relay.channel alike.relay
  exact same

theorem readMode (alike : Alike label one two) : one.relay.readMode = two.relay.readMode := by
  have same := congrArg Relay.readMode alike.relay
  exact same

theorem readBudget (alike : Alike label one two) : one.relay.readBudget = two.relay.readBudget := by
  have same := congrArg Relay.readBudget alike.relay
  exact same

theorem change (alike : Alike label one two) (change : Relay → Relay)
    (regardless : ∀ relay, (change relay).besides label = change (relay.besides label)) :
    Alike label { one with relay := change one.relay } { two with relay := change two.relay } :=
  ⟨by rw [regardless, regardless, alike.relay], alike.kernel⟩

theorem withKernel (alike : Alike label one two) {kernel other : Kernel}
    (kernels : kernel.Alike label other) :
    Alike label { one with kernel } { two with kernel := other } :=
  ⟨alike.relay, kernels⟩

theorem putBack (alike : Alike label one two) {left right : List Session} {kernel other : Kernel}
    (same : PacketRelay.others label left = PacketRelay.others label right)
    (kernels : kernel.Alike label other) :
    Alike label ⟨{ one.relay with roster.sessions := left }, kernel⟩
      ⟨{ two.relay with roster.sessions := right }, other⟩ := by
  refine ⟨?_, kernels⟩
  have put := congrArg (fun relay : Relay => { relay with
    roster.sessions := PacketRelay.others label left }) alike.relay
  rw [Relay.besides, Relay.besides, ← same]
  exact put

end Site.Alike
end PacketRelay
