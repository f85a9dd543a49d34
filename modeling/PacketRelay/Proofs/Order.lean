import PacketRelay.Roster

/-!
Ids along the roster: they grow, so an id stands for one session, and looking a
session up, putting it back and removing it agree with each other.
-/

namespace PacketRelay.Roster

variable {roster : Roster} {session other : Session} {id : Nat}

/-- Ids grow along the roster, and the newest is the last that was given out. -/
structure Ordered (roster : Roster) : Prop where
  ids : roster.sessions.Pairwise (·.id < ·.id)
  issued : ∀ session ∈ roster.sessions, session.id ≤ roster.issued

theorem mem_of_find? (found : roster.find? id = some session) :
    session ∈ roster.sessions ∧ session.id = id := by
  constructor
  · exact List.mem_of_find?_eq_some found
  · simpa using List.find?_some found

theorem find?_of_mem (ordered : roster.Ordered) (member : session ∈ roster.sessions) :
    roster.find? session.id = some session := by
  obtain ⟨ids, _⟩ := ordered
  unfold find?
  generalize roster.sessions = sessions at ids member
  induction sessions with
  | nil => cases member
  | cons first rest ih =>
      obtain ⟨above, later⟩ := List.pairwise_cons.mp ids
      rcases List.mem_cons.mp member with rfl | inside
      · simp
      · have different : first.id ≠ session.id := Nat.ne_of_lt (above session inside)
        simpa [List.find?_cons, different] using ih later inside

/-! ## Putting a session back -/

theorem update_ids (roster : Roster) (session : Session) :
    (roster.update session).sessions.map (·.id) = roster.sessions.map (·.id) := by
  simp only [update, List.map_map]
  apply List.map_congr_left
  intro other _
  by_cases same : other.id = session.id <;> simp [same]

theorem update_ordered (session : Session) (ordered : roster.Ordered) :
    (roster.update session).Ordered where
  ids := by
    have kept := update_ids roster session
    rw [← List.pairwise_map (f := Session.id), kept, List.pairwise_map]
    exact ordered.ids
  issued other member := by
    have inIds : other.id ∈ (roster.update session).sessions.map (·.id) :=
      List.mem_map_of_mem member
    rw [update_ids] at inIds
    obtain ⟨old, oldMember, same⟩ := List.mem_map.mp inIds
    rw [← same]
    exact ordered.issued old oldMember

theorem mem_update (member : other ∈ (roster.update session).sessions) :
    other = session ∨ other ∈ roster.sessions ∧ other.id ≠ session.id := by
  obtain ⟨old, oldMember, result⟩ := List.mem_map.mp member
  by_cases same : old.id = session.id
  · rw [if_pos same] at result
    exact .inl result.symm
  · rw [if_neg same] at result
    exact .inr ⟨result ▸ oldMember, result ▸ same⟩

theorem update_labels (ordered : roster.Ordered)
    (found : roster.find? session.id = some session) (sameId : other.id = session.id)
    (sameLabel : other.label = session.label) :
    (roster.update other).sessions.map (·.label) = roster.sessions.map (·.label) := by
  simp only [update, List.map_map]
  apply List.map_congr_left
  intro old member
  by_cases same : old.id = other.id
  · have again := find?_of_mem ordered member
    rw [same, sameId, found] at again
    cases again
    simp [same, sameLabel]
  · simp [same]

theorem find?_update (roster : Roster) (session : Session) (id : Nat) :
    (roster.update session).find? id = (roster.find? id).map fun other =>
      if other.id = session.id then session else other := by
  simp only [find?, update, List.find?_map]
  congr 1
  apply congrArg (List.find? · roster.sessions)
  funext other
  by_cases same : other.id = session.id <;> simp [same]

theorem find?_update_self (found : roster.find? session.id = some other) :
    (roster.update session).find? session.id = some session := by
  simp [find?_update, found, (mem_of_find? found).2]

/-! ## Removing and inserting -/

theorem remove_sublist (roster : Roster) (id : Nat) :
    List.Sublist (roster.remove id).2.sessions roster.sessions :=
  List.eraseP_sublist

theorem remove_ordered (id : Nat) (ordered : roster.Ordered) : (roster.remove id).2.Ordered where
  ids := ordered.ids.sublist (remove_sublist roster id)
  issued other member := ordered.issued other ((remove_sublist roster id).subset member)

/-- Removing an id removes every session that bears it. -/
theorem remove_sessions (ordered : roster.Ordered) (id : Nat) :
    (roster.remove id).2.sessions = roster.sessions.filter (·.id ≠ id) := by
  obtain ⟨ids, _⟩ := ordered
  simp only [remove]
  generalize roster.sessions = sessions at ids ⊢
  induction sessions with
  | nil => rfl
  | cons first rest ih =>
      obtain ⟨above, later⟩ := List.pairwise_cons.mp ids
      by_cases same : first.id = id
      · have others : ∀ other ∈ rest, other.id ≠ id := fun other member =>
          Nat.ne_of_gt (same ▸ above other member)
        rw [List.eraseP_cons_of_pos (by simpa using same),
          List.filter_cons_of_neg (by simpa using same),
          List.filter_eq_self.mpr (by simpa using others)]
      · rw [List.eraseP_cons_of_neg (by simpa using same),
          List.filter_cons_of_pos (by simpa using same), ih later]

theorem mem_remove (ordered : roster.Ordered) :
    other ∈ (roster.remove id).2.sessions ↔ other ∈ roster.sessions ∧ other.id ≠ id := by
  rw [remove_sessions ordered]
  simp

theorem insert_ordered (label : Nat) (ordered : roster.Ordered) :
    (roster.insert label).2.Ordered where
  ids := by
    apply List.pairwise_append.mpr
    refine ⟨ordered.ids, List.pairwise_singleton _ _, ?_⟩
    intro old member new isNew
    rw [List.mem_singleton.mp isNew]
    exact Nat.lt_succ_of_le (ordered.issued old member)
  issued other member := by
    rcases List.mem_append.mp member with old | new
    · exact Nat.le_succ_of_le (ordered.issued other old)
    · rw [List.mem_singleton.mp new]
      exact Nat.le_refl _

end PacketRelay.Roster
