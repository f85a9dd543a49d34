import PacketRelay.Proofs.Ledger
import PacketRelay.Proofs.Order

/-!
What a broadcast leaves. Those that failed are looked up one after another in a
roster that shrinks. Main statement: while ids are in order this parts the offers
in two, those that were closed and those that stay, each in their old order.
-/

namespace PacketRelay.Roster

variable {roster : Roster}

theorem offer_who (frame : Bytes) (sessions : List Session) (kernel : Kernel) :
    (offer frame sessions kernel).1.map (fun made => (made.1.id, made.1.label)) =
      sessions.map fun session => (session.id, session.label) := by
  induction sessions generalizing kernel with
  | nil => rfl
  | cons session rest ih =>
      have sends := Line.send_sends frame (kernel.line session)
      simp only [offer, List.map_cons, ih, sends.id, sends.label]
      rfl

theorem offer_ids (frame : Bytes) (sessions : List Session) (kernel : Kernel) :
    (offer frame sessions kernel).1.map (·.1.id) = sessions.map (·.id) := by
  have who := congrArg (List.map Prod.fst) (offer_who frame sessions kernel)
  rw [List.map_map, List.map_map] at who
  exact who

theorem offered_ordered (frame : Bytes) (kernel : Kernel) (ordered : roster.Ordered) :
    Ordered { roster with sessions := (offer frame roster.sessions kernel).1.map (·.1) } := by
  have same := offer_ids frame roster.sessions kernel
  generalize (offer frame roster.sessions kernel).1 = offers at same ⊢
  constructor
  · rw [List.pairwise_map,
      ← List.pairwise_map (f := fun made : Session × Sending => made.1.id), same,
      List.pairwise_map]
    exact ordered.ids
  · intro session member
    obtain ⟨made, inside, rfl⟩ := List.mem_map.mp member
    have listed : made.1.id ∈ roster.sessions.map (·.id) := by
      rw [← same]
      exact List.mem_map.mpr ⟨made, inside, rfl⟩
    obtain ⟨was, inside, same⟩ := List.mem_map.mp listed
    exact same ▸ ordered.issued was inside

def closedBy : Session × Sending → Option (Session × Parting)
  | (session, .closed parting) => some (session, parting)
  | _ => none

theorem closedBy_session {made : Session × Sending} {leaver : Session × Parting}
    (closed : closedBy made = some leaver) : leaver.1 = made.1 := by
  obtain ⟨session, sending⟩ := made
  cases sending with
  | closed parting =>
      cases closed
      rfl
  | sent | partly | dropped => cases closed

theorem delivers_eq (session : Session) (sending : Sending) :
    delivers (session, sending) = decide (sending = .sent ∨ sending = .partly) := by
  cases sending <;> rfl

theorem drops_eq (session : Session) (sending : Sending) :
    drops (session, sending) = decide (sending = .dropped) := by
  cases sending <;> rfl

theorem closedBy_isNone (session : Session) (sending : Sending) :
    (closedBy (session, sending)).isNone = !sending.isClosed := by
  cases sending <;> rfl

theorem failedBy_eq (made : Session × Sending) :
    failedBy made = (closedBy made).map fun leaver => (leaver.1.id, leaver.2) := by
  obtain ⟨session, sending⟩ := made
  cases sending <;> rfl

theorem filterMap_failedBy (offers : List (Session × Sending)) :
    offers.filterMap failedBy =
      (offers.filterMap closedBy).map fun leaver => (leaver.1.id, leaver.2) := by
  rw [List.map_filterMap]
  exact congrArg (List.filterMap · offers) (funext failedBy_eq)

theorem eq_of_ids {offers : List (Session × Sending)} {one other : Session × Sending}
    (ids : offers.Pairwise (·.1.id ≠ ·.1.id)) (member : one ∈ offers) (also : other ∈ offers)
    (same : one.1.id = other.1.id) : one = other := by
  induction ids with
  | nil => cases member
  | cons apart _ ih =>
      rcases List.mem_cons.mp member with rfl | inside
      · rcases List.mem_cons.mp also with rfl | inside
        · rfl
        · exact absurd same (apart _ inside)
      · rcases List.mem_cons.mp also with rfl | alsoInside
        · exact absurd same.symm (apart _ inside)
        · exact ih inside alsoInside

theorem staying (offers : List (Session × Sending)) (ids : offers.Pairwise (·.1.id ≠ ·.1.id)) :
    (offers.map (·.1)).filter (fun session =>
        session.id ∉ (offers.filterMap closedBy).map (·.1.id)) =
      (offers.filter fun made => (closedBy made).isNone).map (·.1) := by
  rw [List.filter_map]
  congr 1
  apply List.filter_congr
  intro made member
  have own : made.1.id ∈ (offers.filterMap closedBy).map (·.1.id) ↔
      (closedBy made).isSome := by
    constructor
    · intro listed
      obtain ⟨leaver, isLeaver, same⟩ := List.mem_map.mp listed
      obtain ⟨other, inside, closed⟩ := List.mem_filterMap.mp isLeaver
      rw [closedBy_session closed] at same
      rw [← eq_of_ids ids inside member same, closed]
      rfl
    · intro isClosed
      obtain ⟨leaver, closed⟩ := Option.isSome_iff_exists.mp isClosed
      exact List.mem_map.mpr
        ⟨leaver, List.mem_filterMap.mpr ⟨made, member, closed⟩, by rw [closedBy_session closed]⟩
  cases closed : closedBy made with
  | none => simpa [closed, -List.mem_map] using own
  | some leaver => simpa [closed, -List.mem_map] using own

/-! ## Removing by id -/

theorem remove_perm (roster : Roster) (id : Nat) :
    ((roster.remove id).1.toList ++ (roster.remove id).2.sessions).Perm roster.sessions := by
  simp only [remove, find?]
  induction roster.sessions with
  | nil => exact .nil
  | cons first rest ih =>
      by_cases same : first.id = id
      · simp [same]
      · simp only [List.find?_cons, same, decide_false, List.eraseP_cons, cond_false]
        exact List.perm_middle.trans (ih.cons first)

theorem removeAll_perm (failed : List (Nat × Parting)) (roster : Roster) :
    ((roster.removeAll failed).1.map (·.1) ++ (roster.removeAll failed).2.sessions).Perm
      roster.sessions := by
  induction failed generalizing roster with
  | nil => exact .refl _
  | cons first rest ih =>
      obtain ⟨id, parting⟩ := first
      have removed := roster.remove_perm id
      unfold removeAll
      split
      · next after absent =>
          rw [absent] at removed
          exact (ih after).trans removed
      · next session after found =>
          rw [found] at removed
          exact ((ih after).cons session).trans removed

theorem removeAll_issued (failed : List (Nat × Parting)) (roster : Roster) :
    (roster.removeAll failed).2.issued = roster.issued := by
  induction failed generalizing roster with
  | nil => rfl
  | cons first rest ih =>
      unfold removeAll
      split
      · next after absent => exact (ih after).trans (congrArg (·.2.issued) absent.symm)
      · next session after found => exact (ih after).trans (congrArg (·.2.issued) found.symm)

theorem removeAll_ordered (failed : List (Nat × Parting)) (ordered : roster.Ordered) :
    (roster.removeAll failed).2.Ordered := by
  induction failed generalizing roster with
  | nil => exact ordered
  | cons first rest ih =>
      obtain ⟨id, parting⟩ := first
      have removed := remove_ordered id ordered
      unfold removeAll
      split
      · next after absent =>
          rw [absent] at removed
          exact ih removed
      · next session after found =>
          rw [found] at removed
          exact ih removed

/-- Sessions that are on the roster are found and leave, whatever the order of their removal. -/
theorem removeAll_present {leavers : List (Session × Parting)} (ordered : roster.Ordered)
    (ids : leavers.Pairwise (·.1.id ≠ ·.1.id))
    (present : ∀ leaver ∈ leavers, leaver.1 ∈ roster.sessions) :
    roster.removeAll (leavers.map fun leaver => (leaver.1.id, leaver.2)) =
      (leavers, { roster with
        sessions := roster.sessions.filter fun session =>
          session.id ∉ leavers.map (·.1.id) }) := by
  induction leavers generalizing roster with
  | nil =>
      have same : roster.sessions.filter (fun session =>
          session.id ∉ ([] : List (Session × Parting)).map (·.1.id)) = roster.sessions := by simp
      rw [same]
      rfl
  | cons leaver rest ih =>
      obtain ⟨session, parting⟩ := leaver
      obtain ⟨different, others⟩ := List.pairwise_cons.mp ids
      have found := find?_of_mem ordered (present _ List.mem_cons_self)
      have still : ∀ leaver ∈ rest, leaver.1 ∈ (roster.remove session.id).2.sessions :=
        fun leaver inside => (mem_remove ordered).mpr
          ⟨present leaver (List.mem_cons_of_mem _ inside), (different leaver inside).symm⟩
      have later := ih (remove_ordered session.id ordered) others still
      have removed : roster.remove session.id =
          (some session, { roster with
            sessions := roster.sessions.filter (·.id ≠ session.id) }) := by
        rw [← remove_sessions ordered session.id, ← found]
        rfl
      rw [removed, List.filter_filter] at later
      simp only [List.map_cons, removeAll, removed, later, List.mem_cons, not_or, Bool.decide_and,
        Bool.and_comm, ne_eq]

/-! ## A broadcast -/

theorem broadcast_eq (frame : Bytes) (kernel : Kernel) (ordered : roster.Ordered) :
    roster.broadcast frame kernel =
      let offers := offer frame roster.sessions kernel
      ({ delivered := offers.1.countP delivers
         dropped := offers.1.countP drops
         closed := offers.1.filterMap closedBy },
        { roster with sessions := (offers.1.filter fun made => (closedBy made).isNone).map (·.1) },
        offers.2) := by
  have inOrder := offered_ordered frame kernel ordered
  unfold broadcast
  generalize offer frame roster.sessions kernel = made at inOrder ⊢
  obtain ⟨offers, after⟩ := made
  have ids : offers.Pairwise (·.1.id ≠ ·.1.id) :=
    (List.pairwise_map.mp inOrder.ids).imp Nat.ne_of_lt
  have apart : (offers.filterMap closedBy).Pairwise (·.1.id ≠ ·.1.id) := by
    apply List.pairwise_filterMap.mpr
    apply ids.imp
    intro one other different leaver closed alsoLeaver alsoClosed
    rwa [closedBy_session closed, closedBy_session alsoClosed]
  have present : ∀ leaver ∈ offers.filterMap closedBy, leaver.1 ∈ offers.map (·.1) := by
    intro leaver isLeaver
    obtain ⟨made, inside, closed⟩ := List.mem_filterMap.mp isLeaver
    exact List.mem_map.mpr ⟨made, inside, (closedBy_session closed).symm⟩
  have parted := removeAll_present inOrder apart present
  rw [← filterMap_failedBy, staying offers ids] at parted
  dsimp only
  rw [parted]

theorem broadcast_issued (frame : Bytes) (roster : Roster) (kernel : Kernel) :
    (roster.broadcast frame kernel).2.1.issued = roster.issued :=
  removeAll_issued _ _

theorem broadcast_ordered (frame : Bytes) (kernel : Kernel) (ordered : roster.Ordered) :
    (roster.broadcast frame kernel).2.1.Ordered :=
  removeAll_ordered _ (offered_ordered frame kernel ordered)

end PacketRelay.Roster
