/-!
Finite tables as lists of pairs with one entry for a key.
-/

namespace PacketRelay.Kernel.Table

variable {Key Value : Type} [BEq Key]

def erase (key : Key) (table : List (Key × Value)) : List (Key × Value) :=
  table.filter fun entry => entry.1 != key

def insert (key : Key) (value : Value) (table : List (Key × Value)) : List (Key × Value) :=
  (key, value) :: erase key table

variable [LawfulBEq Key]

theorem lookup_erase (key other : Key) (table : List (Key × Value)) :
    (erase key table).lookup other = if other == key then none else table.lookup other := by
  unfold erase
  induction table with
  | nil => simp
  | cons entry rest ih =>
      obtain ⟨name, value⟩ := entry
      by_cases dropped : name = key
      · subst name
        rw [List.filter_cons_of_neg (by simp), ih, List.lookup_cons]
        cases other == key <;> rfl
      · rw [List.filter_cons_of_pos (by simpa using dropped), List.lookup_cons, List.lookup_cons,
          ih]
        by_cases here : other = name
        · simp [here, dropped]
        · simp [beq_eq_false_iff_ne.mpr here]

theorem lookup_insert (key other : Key) (value : Value) (table : List (Key × Value)) :
    (insert key value table).lookup other =
      if other == key then some value else table.lookup other := by
  rw [insert, List.lookup_cons, lookup_erase]
  cases other == key <;> rfl

end PacketRelay.Kernel.Table
