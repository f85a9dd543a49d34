import PacketRelay.Proofs.Turns

/-!
A roster by itself, dealt with in any way. Main statement: ids are given out once
each and in order, whoever was given one is on the roster or has been handed back,
never both and never twice, and the roster lists those that are left in the order
in which they came.
-/

namespace PacketRelay

/-- What can be done to a roster. A broadcast meets the kernel as it is at that time. -/
inductive Dealing where
  | insert (label : Nat)
  | remove (id : Nat)
  | broadcast (frame : Bytes) (kernel : Kernel)
  | drain

structure Custody where
  roster : Roster := {}
  /-- The ids in the order in which they were given out, each with the stream it stands for. -/
  issued : List (Nat × Nat) := []
  returned : List Session := []

namespace Custody

def hand (returned : List Session) (roster : Roster) (custody : Custody) : Custody :=
  { custody with roster, returned := custody.returned ++ returned }

def deal (custody : Custody) : Dealing → Custody
  | .insert label =>
      let (id, roster) := custody.roster.insert label
      { custody with roster, issued := custody.issued ++ [(id, label)] }
  | .remove id =>
      let (found, roster) := custody.roster.remove id
      custody.hand found.toList roster
  | .broadcast frame kernel =>
      let (report, roster, _) := custody.roster.broadcast frame kernel
      custody.hand (report.closed.map (·.1)) roster
  | .drain =>
      let (sessions, roster) := custody.roster.drain
      custody.hand sessions roster

def dealAll (dealings : List Dealing) (custody : Custody) : Custody :=
  dealings.foldl deal custody

/-! ## One dealing -/

/-- What every dealing keeps: ids have been given out one after another, and whoever
was given one is accounted for. -/
structure Balanced (custody : Custody) : Prop where
  ordered : custody.roster.Ordered
  ids : custody.issued.map (·.1) = List.range' 1 custody.roster.issued
  whole : ((custody.returned ++ custody.roster.sessions).map Session.tag).Perm custody.issued

variable {custody : Custody}

theorem Balanced.hand {returned : List Session} {roster : Roster} (balanced : custody.Balanced)
    (ordered : roster.Ordered) (issued : roster.issued = custody.roster.issued)
    (parted : ((returned ++ roster.sessions).map Session.tag).Perm
      (custody.roster.sessions.map Session.tag)) :
    (custody.hand returned roster).Balanced where
  ordered := ordered
  ids := by
    change custody.issued.map (·.1) = List.range' 1 roster.issued
    rw [issued, balanced.ids]
  whole := by
    change (((custody.returned ++ returned) ++ roster.sessions).map Session.tag).Perm custody.issued
    rw [List.append_assoc, List.map_append]
    refine (parted.append_left _).trans ?_
    rw [← List.map_append]
    exact balanced.whole

theorem Balanced.insert (balanced : custody.Balanced) (label : Nat) :
    (custody.deal (.insert label)).Balanced where
  ordered := Roster.insert_ordered label balanced.ordered
  ids := by
    change (custody.issued ++ [(custody.roster.issued + 1, label)]).map (·.1) =
      List.range' 1 (custody.roster.issued + 1)
    rw [List.map_append, balanced.ids, List.range'_1_concat]
    simp [Nat.add_comm]
  whole := by
    let newcomer : Session := { id := custody.roster.issued + 1, label }
    change ((custody.returned ++ (custody.roster.sessions ++ [newcomer])).map Session.tag).Perm
      (custody.issued ++ [newcomer.tag])
    rw [← List.append_assoc, List.map_append]
    exact balanced.whole.append_right _

theorem broadcast_parted (frame : Bytes) (roster : Roster) (kernel : Kernel) :
    (((roster.broadcast frame kernel).1.closed.map (·.1) ++
      (roster.broadcast frame kernel).2.1.sessions).map Session.tag).Perm
        (roster.sessions.map Session.tag) := by
  have who := Roster.offer_who frame roster.sessions kernel
  unfold Roster.broadcast
  generalize Roster.offer frame roster.sessions kernel = made at who ⊢
  obtain ⟨offers, after⟩ := made
  have parted := Roster.removeAll_perm (offers.filterMap Roster.failedBy)
    { roster with sessions := offers.map (·.1) }
  have same : (offers.map (·.1)).map Session.tag = roster.sessions.map Session.tag := by
    rw [List.map_map]
    exact who
  exact same ▸ parted.map Session.tag

theorem Balanced.deal (balanced : custody.Balanced) (dealing : Dealing) :
    (custody.deal dealing).Balanced := by
  cases dealing with
  | insert label => exact balanced.insert label
  | remove id =>
      exact balanced.hand (Roster.remove_ordered id balanced.ordered) rfl
        ((custody.roster.remove_perm id).map Session.tag)
  | broadcast frame kernel =>
      exact balanced.hand (Roster.broadcast_ordered frame kernel balanced.ordered)
        (Roster.broadcast_issued frame custody.roster kernel)
        (broadcast_parted frame custody.roster kernel)
  | drain =>
      refine balanced.hand ⟨.nil, by simp⟩ rfl ?_
      change ((custody.roster.sessions ++ []).map Session.tag).Perm _
      rw [List.append_nil]

theorem Balanced.dealAll (balanced : custody.Balanced) (dealings : List Dealing) :
    (custody.dealAll dealings).Balanced := by
  induction dealings generalizing custody with
  | nil => exact balanced
  | cons dealing rest ih => exact ih (balanced.deal dealing)

theorem start_balanced : ({} : Custody).Balanced where
  ordered := ⟨.nil, by simp⟩
  ids := rfl
  whole := .nil

/-! ## What follows from the account -/

namespace Balanced

theorem issued_rising (balanced : custody.Balanced) : custody.issued.Pairwise (·.1 < ·.1) := by
  rw [← List.pairwise_map, balanced.ids]
  exact List.pairwise_lt_range'

theorem ids_nodup (balanced : custody.Balanced) :
    (custody.returned.map (·.id) ++ custody.roster.sessions.map (·.id)).Nodup := by
  have ids := balanced.whole.map Prod.fst
  rw [List.map_map, List.map_append, balanced.ids] at ids
  exact ids.nodup_iff.mpr List.nodup_range'

theorem sessions_eq (balanced : custody.Balanced) :
    custody.roster.sessions.map Session.tag =
      custody.issued.filter fun given => given.1 ∉ custody.returned.map (·.id) := by
  obtain ⟨_, _, apart⟩ := List.nodup_append.mp balanced.ids_nodup
  have gone : (custody.returned.map Session.tag).filter
      (fun given => given.1 ∉ custody.returned.map (·.id)) = [] := by
    apply List.filter_eq_nil_iff.mpr
    intro given member
    obtain ⟨session, inside, rfl⟩ := List.mem_map.mp member
    simpa using ⟨session, inside, rfl⟩
  have left : (custody.roster.sessions.map Session.tag).filter
      (fun given => given.1 ∉ custody.returned.map (·.id)) =
        custody.roster.sessions.map Session.tag := by
    apply List.filter_eq_self.mpr
    intro given member
    obtain ⟨session, inside, rfl⟩ := List.mem_map.mp member
    refine decide_eq_true fun handed => ?_
    exact apart _ handed _ (List.mem_map_of_mem inside) rfl
  have same := balanced.whole.filter fun given => given.1 ∉ custody.returned.map (·.id)
  rw [List.map_append, List.filter_append, gone, left, List.nil_append] at same
  -- Both lists rise, so they are not only the same up to order.
  have rising : (custody.roster.sessions.map Session.tag).Pairwise (·.1 < ·.1) :=
    List.pairwise_map.mpr balanced.ordered.ids
  refine same.eq_of_pairwise ?_ rising (balanced.issued_rising.filter _)
  intro one other _ _ above below
  exact absurd (Nat.lt_trans above below) (Nat.lt_irrefl _)

end Balanced

structure Exact (custody : Custody) : Prop where
  rising : (custody.roster.sessions.map (·.id)).Pairwise (· < ·)
  /-- Those on the roster are those that were inserted and have not left, in the order
  in which they were. -/
  present : custody.roster.sessions.map Session.tag =
    custody.issued.filter fun given => given.1 ∉ custody.returned.map (·.id)
  /-- The ids given out so far are 1, 2 and so on, whatever has become of them. -/
  fresh : custody.issued.map (·.1) = List.range' 1 custody.issued.length
  once : (custody.returned.map (·.id)).Nodup
  whole : ((custody.returned ++ custody.roster.sessions).map Session.tag).Perm custody.issued
  found : ∀ id session, (custody.roster.remove id).1 = some session ↔
    session ∈ custody.roster.sessions ∧ session.id = id
  others : ∀ id, (custody.roster.remove id).2 =
    { custody.roster with sessions := custody.roster.sessions.filter (·.id ≠ id) }
  /-- A broadcast hands back those whose turn closes their stream, and no one else. -/
  offered : ∀ frame kernel, ∃ offers last,
    Roster.Turns frame custody.roster.sessions kernel offers last ∧
    (custody.roster.broadcast frame kernel).1.closed = offers.filterMap Roster.closedBy ∧
    (custody.roster.broadcast frame kernel).2 = ({ custody.roster with
      sessions := (offers.filter fun offer => !offer.2.isClosed).map (·.1) }, last)
  drained : custody.roster.drain =
    (custody.roster.sessions, { custody.roster with sessions := [] })

/-- Whatever is done to a roster that was empty, its ids rise and belong to those that
were inserted and have not left. No id is given out twice, every stream is handed back
at most once, and a removal finds just the session with its id and leaves the others
as they are. So does a broadcast with those whose stream it closes, and a drain takes
everyone. -/
theorem dealt_exactly (dealings : List Dealing) : (({} : Custody).dealAll dealings).Exact := by
  have balanced := start_balanced.dealAll dealings
  generalize ({} : Custody).dealAll dealings = custody at balanced ⊢
  have ordered := balanced.ordered
  constructor
  case rising => exact List.pairwise_map.mpr ordered.ids
  case present => exact balanced.sessions_eq
  case fresh =>
    have count := congrArg List.length balanced.ids
    rw [List.length_map, List.length_range'] at count
    rw [balanced.ids, count]
  case once => exact (List.nodup_append.mp balanced.ids_nodup).1
  case whole => exact balanced.whole
  case found =>
    intro id session
    constructor
    · exact Roster.mem_of_find?
    · rintro ⟨member, rfl⟩
      exact Roster.find?_of_mem ordered member
  case others =>
    intro id
    rw [← Roster.remove_sessions ordered id]
    rfl
  case offered => exact fun frame kernel => Roster.broadcast_turns frame kernel ordered
  case drained => rfl

-- A stream that comes back gets another id.
example :
    let custody := ({} : Custody).dealAll
      [.insert 5, .insert 7, .remove 1, .remove 1, .insert 5, .drain, .insert 9]
    custody.issued = [(1, 5), (2, 7), (3, 5), (4, 9)] ∧
      custody.returned.map (·.id) = [1, 2, 3] ∧
      custody.roster.sessions.map Session.tag = [(4, 9)] := by decide

end Custody
end PacketRelay
