import PacketRelay.Proofs.Account
import PacketRelay.Proofs.Custody

/-!
A broadcast as each session sees it. Sessions have streams of their own, so none of
them can tell that the frame was offered to others too. Main statement: a broadcast is
what offering the frame to each session alone comes to, and what stays on the roster
and what is handed back part these offers in two.
-/

namespace PacketRelay

/-! ## What was recorded before -/

namespace Kernel.Handle

def onto (earlier : Record) (handle : Handle) : Handle :=
  { handle with record := handle.record.onto earlier }

theorem write_onto (bytes : Bytes) (earlier : Record) (handle : Handle) :
    (handle.onto earlier).write bytes =
      ((handle.write bytes).1, (handle.write bytes).2.onto earlier) := by
  obtain ⟨descriptor, endpoint, record⟩ := handle
  obtain ⟨last, interruptions, _, outcome⟩ := write_spec bytes descriptor endpoint
  simp only [onto, outcome, Record.onto_onto]

end Kernel.Handle

namespace Line

def onto (earlier : Record) (line : Line) : Line :=
  { line with record := line.record.onto earlier }

variable (earlier : Record) (line : Line)

@[simp]
theorem onto_session : (line.onto earlier).session = line.session := rfl

theorem write_onto (bytes : Bytes) :
    (line.onto earlier).handle.write bytes =
      ((line.handle.write bytes).1, (line.handle.write bytes).2.onto earlier) :=
  Kernel.Handle.write_onto bytes earlier line.handle

theorem drainPending_onto :
    (line.onto earlier).drainPending = (line.drainPending.1, line.drainPending.2.onto earlier) := by
  fun_induction drainPending line with
  | case1 line noneLeft =>
      rw [drainPending, onto_session, dif_pos noneLeft]
  | case2 line someLeft handle made =>
      rw [drainPending, onto_session, dif_neg someLeft, write_onto, made]
      rfl
  | case3 line someLeft count handle made shorter ih =>
      rw [drainPending, onto_session, dif_neg someLeft, write_onto, made]
      exact ih
  | case4 line someLeft handle made =>
      rw [drainPending, onto_session, dif_neg someLeft, write_onto, made]
      rfl
  | case5 line someLeft errno handle made fatal =>
      rw [drainPending, onto_session, dif_neg someLeft, write_onto, made]
      simp only [if_neg fatal]
      rfl

theorem flush_onto : (line.onto earlier).flush = (line.flush.1, line.flush.2.onto earlier) := by
  unfold flush
  rw [drainPending_onto]
  cases line.drainPending with
  | mk result after =>
      cases result with
      | error errno => rfl
      | ok _ =>
          dsimp only
          rw [onto_session, onto_session]
          by_cases emptied : (line.session.wantsWrite && !after.session.wantsWrite) = true
          · rw [if_pos emptied, if_pos emptied]
            rfl
          · rw [if_neg emptied, if_neg emptied]

theorem offer_onto (frame : Bytes) :
    (line.onto earlier).offer frame =
      ((line.offer frame).1, (line.offer frame).2.onto earlier) := by
  unfold offer
  rw [write_onto]
  cases line.handle.write frame with
  | mk result handle =>
      cases result with
      | ok taken =>
          dsimp only
          split
          · rfl
          · split
            · rfl
            · rfl
      | error errno =>
          dsimp only
          split
          · rfl
          · rfl

theorem send_onto (frame : Bytes) :
    (line.onto earlier).send frame = ((line.send frame).1, (line.send frame).2.onto earlier) := by
  unfold send
  rw [onto_session, flush_onto, offer_onto]
  split
  · rfl
  · split
    · rfl
    · cases line.flush with
      | mk result after =>
          cases result with
          | error parting => rfl
          | ok _ =>
              simp only [onto_session, offer_onto]
              split
              · rfl
              · rfl

end Line

/-! ## One offer among many -/

namespace Roster

/-- The frame offered to one session as if there were no other, on a record of its own. -/
def alone (frame : Bytes) (kernel : Kernel) (session : Session) : Sending × Line :=
  Line.send frame ⟨session, kernel.client session.label, {}⟩

variable {roster : Roster} {frame : Bytes} {kernel after : Kernel} {sessions : List Session}

/-- It is the offer that is made on the kernel, but for what was recorded before. -/
theorem send_alone (frame : Bytes) (kernel : Kernel) (session : Session) :
    (kernel.line session).send frame =
      ((alone frame kernel session).1, (alone frame kernel session).2.onto kernel.record) :=
  Line.send_onto kernel.record ⟨session, kernel.client session.label, {}⟩ frame

theorem alone_label (frame : Bytes) (kernel : Kernel) (session : Session) :
    (alone frame kernel session).2.session.label = session.label :=
  (Line.send_sends frame _).label

/-- What its own offer makes of each session, and how that offer ends. -/
def verdicts (frame : Bytes) (kernel : Kernel) (sessions : List Session) :
    List (Session × Sending) :=
  sessions.map fun session =>
    ((alone frame kernel session).2.session, (alone frame kernel session).1)

/-- What the streams will take decides it, not what was done before. -/
theorem verdicts_clients (frame : Bytes) {kernel other : Kernel}
    (same : kernel.clients = other.clients) (sessions : List Session) :
    verdicts frame kernel sessions = verdicts frame other sessions := by
  simp only [verdicts, alone, Kernel.client, same]

def afterOne (frame : Bytes) (kernel : Kernel) (session : Session) : Kernel :=
  kernel.overLine ((alone frame kernel session).2.onto kernel.record)

theorem offer_cons (frame : Bytes) (session : Session) (rest : List Session) (kernel : Kernel) :
    offer frame (session :: rest) kernel =
      (((alone frame kernel session).2.session, (alone frame kernel session).1) ::
        (offer frame rest (afterOne frame kernel session)).1,
        (offer frame rest (afterOne frame kernel session)).2) := by
  simp only [offer, send_alone]
  rfl

theorem client_afterOne (frame : Bytes) (kernel : Kernel) (session : Session) (label : Nat) :
    (afterOne frame kernel session).client label =
      if label = session.label then (alone frame kernel session).2.stream
      else kernel.client label := by
  rw [← alone_label frame kernel session]
  exact kernel.client_setClient _ label _

/-- Another session finds its stream as it was, so it is offered the frame as before. -/
theorem alone_afterOne {session other : Session} (elsewhere : other.label ≠ session.label) :
    alone frame (afterOne frame kernel session) other = alone frame kernel other := by
  rw [alone, client_afterOne, if_neg elsewhere]
  rfl

/-- The offers are those that each session would be made alone. -/
structure Apart (frame : Bytes) (sessions : List Session) (kernel after : Kernel) : Prop where
  streams : ∀ session ∈ sessions,
    after.client session.label = (alone frame kernel session).2.stream
  others : ∀ label, (∀ session ∈ sessions, session.label ≠ label) →
    after.client label = kernel.client label
  /-- Each offer is made once, in turn, and is recorded as it would be alone. -/
  record : after.record = (sessions.map (alone frame kernel)).foldl
    (fun record made => made.2.record.onto record) kernel.record
  aside : after = { kernel with clients := after.clients, record := after.record }

theorem offer_apart (frame : Bytes) (apart : (sessions.map (·.label)).Nodup) (kernel : Kernel) :
    (offer frame sessions kernel).1 = verdicts frame kernel sessions ∧
      Apart frame sessions kernel (offer frame sessions kernel).2 := by
  induction sessions generalizing kernel with
  | nil => exact ⟨rfl, by simp, fun _ _ => rfl, rfl, rfl⟩
  | cons session rest ih =>
      obtain ⟨different, laterApart⟩ := List.nodup_cons.mp apart
      have elsewhere : ∀ other ∈ rest, other.label ≠ session.label := fun other member same =>
        different (List.mem_map.mpr ⟨other, member, same⟩)
      have unmoved : ∀ other ∈ rest,
          alone frame (afterOne frame kernel session) other = alone frame kernel other :=
        fun other member => alone_afterOne (elsewhere other member)
      obtain ⟨results, ih⟩ := ih laterApart (afterOne frame kernel session)
      rw [offer_cons]
      refine ⟨?_, ?_, ?_, ?_, ih.aside⟩
      · have same : verdicts frame (afterOne frame kernel session) rest =
            verdicts frame kernel rest :=
          List.map_congr_left fun other member => by rw [unmoved other member]
        rw [results, same]
        rfl
      · intro other member
        rcases List.mem_cons.mp member with rfl | inside
        · rw [ih.others _ elsewhere, client_afterOne, if_pos rfl]
        · rw [ih.streams other inside, unmoved other inside]
      · intro label unused
        have notOwn : label ≠ session.label := (unused session List.mem_cons_self).symm
        rw [ih.others label fun other inside => unused other (List.mem_cons_of_mem _ inside),
          client_afterOne, if_neg notOwn]
      · rw [ih.record, List.map_congr_left unmoved]
        rfl

/-! ## The rosters there can be -/

theorem broadcast_labels (frame : Bytes) (kernel : Kernel)
    (labels : (roster.sessions.map (·.label)).Nodup) :
    ((roster.broadcast frame kernel).2.1.sessions.map (·.label)).Nodup := by
  have parted := (Custody.broadcast_parted frame roster kernel).map Prod.snd
  rw [List.map_map, List.map_map] at parted
  have nodup := parted.nodup_iff.mpr labels
  rw [List.map_append] at nodup
  exact (List.nodup_append.mp nodup).2.1

structure Distinct (roster : Roster) : Prop where
  ordered : roster.Ordered
  labels : (roster.sessions.map (·.label)).Nodup

theorem Distinct.broadcast (distinct : roster.Distinct) (frame : Bytes) (kernel : Kernel) :
    (roster.broadcast frame kernel).2.1.Distinct where
  ordered := broadcast_ordered frame kernel distinct.ordered
  labels := broadcast_labels frame kernel distinct.labels

/-- A roster as its operations leave it, whatever the world does meanwhile. -/
inductive Reachable : Roster → Prop where
  | empty : Reachable {}
  /-- A descriptor that is still on the roster is not handed out again. -/
  | insert {roster : Roster} (label : Nat) (reachable : Reachable roster)
      (unused : ∀ session ∈ roster.sessions, session.label ≠ label) :
      Reachable (roster.insert label).2
  | remove {roster : Roster} (id : Nat) (reachable : Reachable roster) :
      Reachable (roster.remove id).2
  | broadcast {roster : Roster} (frame : Bytes) (kernel : Kernel) (reachable : Reachable roster) :
      Reachable (roster.broadcast frame kernel).2.1
  | drain {roster : Roster} (reachable : Reachable roster) : Reachable roster.drain.2
  /-- A session is looked up, does something and is put back. -/
  | act {roster : Roster} (made : Act) (account : Account) (reachable : Reachable roster)
      (found : roster.find? account.circuit.session.id = some account.circuit.session) :
      Reachable (roster.update (account.act made).circuit.session)

theorem Reachable.ordered (reachable : roster.Reachable) : roster.Ordered := by
  induction reachable with
  | empty => exact ⟨.nil, by simp⟩
  | insert label _ _ ih => exact insert_ordered label ih
  | remove id _ ih => exact remove_ordered id ih
  | broadcast frame kernel _ ih => exact broadcast_ordered frame kernel ih
  | drain => exact ⟨.nil, fun _ member => nomatch member⟩
  | act made account _ _ ih => exact update_ordered _ ih

theorem Reachable.labels (reachable : roster.Reachable) :
    (roster.sessions.map (·.label)).Nodup := by
  induction reachable with
  | empty => exact .nil
  | @insert roster label _ unused ih =>
      change ((roster.sessions ++ [_]).map Session.label).Nodup
      rw [List.map_append]
      refine List.nodup_append.mpr ⟨ih, List.pairwise_singleton _ _, ?_⟩
      intro one old other new same
      obtain ⟨session, member, rfl⟩ := List.mem_map.mp old
      exact unused session member (same.trans (List.mem_singleton.mp new))
  | remove id _ ih => exact ih.sublist ((remove_sublist _ id).map _)
  | broadcast frame kernel _ ih => exact broadcast_labels frame kernel ih
  | drain => exact .nil
  | act made account reachable found ih =>
      rw [update_labels reachable.ordered found (Account.act_id made account)
        (Account.act_label made account)]
      exact ih

/-! ## A broadcast -/

/-- Nobody becomes another by an offer. -/
theorem verdicts_tags (frame : Bytes) (kernel : Kernel) (sessions : List Session) :
    (verdicts frame kernel sessions).map (·.1.tag) = sessions.map Session.tag := by
  rw [verdicts, List.map_map]
  apply List.map_congr_left
  intro session _
  have sends := Line.send_sends frame ⟨session, kernel.client session.label, {}⟩
  exact Prod.ext sends.id sends.label

theorem verdicts_counted (offers : List (Session × Sending)) :
    offers.countP delivers + offers.countP drops + (offers.filterMap closedBy).length =
      offers.length := by
  induction offers with
  | nil => rfl
  | cons first rest ih =>
      obtain ⟨session, sending⟩ := first
      cases sending with
      | sent | partly | dropped | closed parting =>
          simp [List.countP_cons, List.filterMap_cons, delivers, drops, closedBy, ← ih]
          omega

/-- What a broadcast reports and leaves, told by the verdicts on each session alone. -/
structure Parted (offers : List (Session × Sending)) (roster left : Roster)
    (report : Broadcast) : Prop where
  staying : left = { roster with
    sessions := (offers.filter fun offer => !offer.2.isClosed).map (·.1) }
  closed : report.closed = offers.filterMap closedBy
  delivered : report.delivered = offers.countP fun offer => offer.2 = .sent ∨ offer.2 = .partly
  dropped : report.dropped = offers.countP fun offer => offer.2 = .dropped
  whole : report.delivered + report.dropped + report.closed.length = roster.size
  /-- The verdicts stand in the order of the roster, each on a session of its own. -/
  order : offers.map (·.1.tag) = roster.sessions.map Session.tag

theorem Distinct.parts (distinct : roster.Distinct) (frame : Bytes) (kernel : Kernel) :
    Parted (verdicts frame kernel roster.sessions) roster (roster.broadcast frame kernel).2.1
        (roster.broadcast frame kernel).1 ∧
      Apart frame roster.sessions kernel (roster.broadcast frame kernel).2.2 := by
  obtain ⟨made, apart⟩ := offer_apart frame distinct.labels kernel
  have order := verdicts_tags frame kernel roster.sessions
  have parts := broadcast_eq frame kernel distinct.ordered
  simp only [made] at parts
  rw [parts]
  refine ⟨?_, apart⟩
  generalize verdicts frame kernel roster.sessions = offers at order
  have size : offers.length = roster.size := by
    simpa [size] using congrArg List.length order
  constructor
  case staying =>
    have stays : (fun offer => (closedBy offer).isNone) = fun offer => !offer.2.isClosed :=
      funext fun offer => closedBy_isNone offer.1 offer.2
    rw [stays]
  case closed => rfl
  case delivered =>
    exact congrArg (offers.countP ·) (funext fun offer => delivers_eq offer.1 offer.2)
  case dropped => exact congrArg (offers.countP ·) (funext fun offer => drops_eq offer.1 offer.2)
  case whole => exact (verdicts_counted offers).trans size
  case order => exact order

/-- On every roster there can be, a broadcast offers the frame once to each session, with
the effect that the offer has on it alone, and then parts the roster by how the offers ended. -/
theorem broadcast_parts (frame : Bytes) (kernel : Kernel) (reachable : roster.Reachable) :
    Parted (verdicts frame kernel roster.sessions) roster (roster.broadcast frame kernel).2.1
        (roster.broadcast frame kernel).1 ∧
      Apart frame roster.sessions kernel (roster.broadcast frame kernel).2.2 :=
  Distinct.parts ⟨reachable.ordered, reachable.labels⟩ frame kernel

/-- The first is closed, the second takes all of the frame and the third has no room. -/
theorem broadcast_parts_three :
    let kernel : Kernel :=
      { clients := [(1, { outbound := [.failure ⟨32⟩] }), (2, {}), (3, { room := some 0 })] }
    let roster := ((({} : Roster).insert 1).2.insert 2 |>.2.insert 3).2
    let after := roster.broadcast [0, 0, 0, 1, 9] kernel
    after.2.1.sessions.map Session.tag = [(2, 2), (3, 3)] ∧
      after.1.closed.map (fun leaver => (leaver.1.tag, leaver.2)) = [((1, 1), .io ⟨32⟩)] ∧
      after.1.delivered = 1 ∧ after.1.dropped = 1 := by
  intro kernel roster after
  have reachable : roster.Reachable :=
    .insert 3 (.insert 2 (.insert 1 .empty (by decide)) (by decide)) (by decide)
  obtain ⟨⟨staying, closed, delivered, dropped, _⟩, _⟩ :=
    broadcast_parts [0, 0, 0, 1, 9] kernel reachable
  refine ⟨?_, ?_, ?_, ?_⟩
  · rw [staying]
    decide +kernel
  · rw [closed]
    decide +kernel
  · rw [delivered]
    decide +kernel
  · rw [dropped]
    decide +kernel

end Roster
end PacketRelay
