import Mathlib.Algebra.Ring.Nat
import PacketRelay.Proofs.Paths

/-!
The tallies of all sessions together, those that are over included. Putting a
session back changes the sum by what the session has counted meanwhile; a
session that leaves or is dismissed takes nothing with it.
-/

namespace PacketRelay

/-- A counter of a tally: it adds up when tallies do. -/
def Tally.Adds (count : Tally → Nat) : Prop :=
  ∀ one other, count (one.add other) = count one + count other

namespace Tally

theorem received_adds : Adds Tally.received := fun _ _ => rfl

theorem forwarded_adds : Adds Tally.forwarded := fun _ _ => rfl

theorem dropped_adds : Adds Tally.dropped := fun _ _ => rfl

variable {count : Tally → Nat}

theorem Adds.zero (adds : Adds count) : count {} = 0 := by
  have twice : count {} = count {} + count {} := adds {} {}
  omega

end Tally

namespace Roster

variable {roster : Roster} {session old : Session} {id : Nat}

theorem sum_update (ordered : roster.Ordered) (found : roster.find? session.id = some old)
    (weight : Session → Nat) :
    ((roster.update session).sessions.map weight).sum + weight old =
      (roster.sessions.map weight).sum + weight session := by
  obtain ⟨ids, _⟩ := ordered
  unfold find? at found
  simp only [update]
  generalize roster.sessions = sessions at ids found ⊢
  induction sessions with
  | nil => cases found
  | cons first rest ih =>
      obtain ⟨above, later⟩ := List.pairwise_cons.mp ids
      by_cases here : first.id = session.id
      · -- Only this one bears the id, so all others stay as they are.
        have others : ∀ other ∈ rest, ¬ other.id = session.id := fun other member =>
          Nat.ne_of_gt (here ▸ above other member)
        rw [List.find?_cons_of_pos (by simpa using here)] at found
        cases found
        rw [List.map_cons, if_pos here,
          List.map_congr_left fun other member => if_neg (others other member)]
        simp only [List.map_cons, List.map_id', List.sum_cons]
        omega
      · rw [List.find?_cons_of_neg (by simpa using here)] at found
        have kept := ih later found
        rw [List.map_cons, if_neg here]
        simp only [List.map_cons, List.sum_cons]
        omega

theorem sum_remove (found : roster.find? id = some session) (weight : Session → Nat) :
    ((roster.remove id).2.sessions.map weight).sum + weight session =
      (roster.sessions.map weight).sum := by
  unfold find? at found
  simp only [remove]
  generalize roster.sessions = sessions at found ⊢
  induction sessions with
  | nil => cases found
  | cons first rest ih =>
      by_cases here : first.id = id
      · rw [List.find?_cons_of_pos (by simpa using here)] at found
        cases found
        rw [List.eraseP_cons_of_pos (by simpa using here), List.map_cons, List.sum_cons,
          Nat.add_comm]
      · rw [List.find?_cons_of_neg (by simpa using here)] at found
        have kept := ih found
        rw [List.eraseP_cons_of_neg (by simpa using here)]
        simp only [List.map_cons, List.sum_cons]
        omega

end Roster

theorem Relay.count_tally {count : Tally → Nat} (adds : Tally.Adds count) (relay : Relay) :
    count relay.tally =
      count relay.retired + (relay.roster.sessions.map (count ·.tally)).sum := by
  unfold tally
  generalize relay.retired = start
  induction relay.roster.sessions generalizing start with
  | nil => rfl
  | cons session rest ih =>
      rw [List.foldl_cons, ih, adds, List.map_cons, List.sum_cons, Nat.add_assoc]

namespace Site

variable {count : Tally → Nat} {site : Site} {session : Session}

theorem count_putBack (adds : Tally.Adds count) (ordered : site.relay.roster.Ordered)
    (found : site.relay.roster.find? session.id = some session) {later : Session}
    (same : later.id = session.id) {next : Site}
    (roster : next.relay.roster = site.relay.roster.update later)
    (retired : next.relay.retired = site.relay.retired) :
    count next.relay.tally + count session.tally =
      count site.relay.tally + count later.tally := by
  have changed := Roster.sum_update ordered (same ▸ found) (count ·.tally)
  rw [Relay.count_tally adds, Relay.count_tally adds, roster, retired]
  omega

theorem count_leave (adds : Tally.Adds count) (parting : Parting)
    (found : site.relay.roster.find? session.id = some session) :
    count (site.leave session parting).relay.tally = count site.relay.tally := by
  have removed := Roster.sum_remove found (count ·.tally)
  have retired := adds site.relay.retired session.tally
  rw [Relay.count_tally adds, Relay.count_tally adds]
  simp only [leave, absorb, note] at removed ⊢
  omega

theorem count_dismiss (adds : Tally.Adds count) {others : List Session}
    (sessions : site.relay.roster.sessions = session :: others) :
    count (site.dismiss session others).relay.tally = count site.relay.tally := by
  have retired := adds site.relay.retired session.tally
  rw [Relay.count_tally adds, Relay.count_tally adds, sessions]
  simp only [dismiss, absorb, List.map_cons, List.sum_cons]
  omega

theorem count_enroll (adds : Tally.Adds count) (label : Nat) (site : Site) :
    count (site.enroll label).relay.tally = count site.relay.tally := by
  have nothing := adds.zero
  rw [Relay.count_tally adds, Relay.count_tally adds]
  simp only [enroll, Roster.insert, List.map_append, List.map_cons, List.map_nil,
    List.sum_append, List.sum_cons, List.sum_nil]
  omega

end Site
end PacketRelay
