import PacketRelay.Frame.Basic
import PacketRelay.Record

/-!
What the record says happened on each descriptor. The record is kept newest
first; every list read off it here is oldest first.
-/

namespace PacketRelay

def Log.Notice.isParting : Log.Notice → Bool
  | .parted .. => true
  | _ => false

namespace Kernel

def Descriptor.client? : Descriptor → Option Nat
  | .client label => some label
  | .tunnel | .channel => none

def Call.client? : Call → Option Nat
  | .read descriptor .. | .write descriptor .. | .unblock descriptor _ | .resize descriptor ..
  | .close descriptor => descriptor.client?
  | .accept (.ok label) => some label
  | _ => none

end Kernel

open Kernel (Call Descriptor)

namespace History

/-! ## Moments

A moment is the record as it was at some time: what was recorded by then is a
suffix of what has been recorded since. -/

structure Throughout (holds : List Call → Prop) (earlier later : List Call) : Prop where
  suffix : earlier <:+ later
  moments : ∀ moment, earlier <:+ moment → moment <:+ later → holds moment

namespace Throughout

variable {holds : List Call → Prop} {earlier middle later : List Call}

theorem refl (start : holds earlier) : Throughout holds earlier earlier where
  suffix := List.suffix_rfl
  moments moment fromStart toEnd := by
    rw [← fromStart.eq_of_length_le toEnd.length_le]
    exact start

theorem last (kept : Throughout holds earlier later) : holds later :=
  kept.moments later kept.suffix List.suffix_rfl

theorem trans (first : Throughout holds earlier middle) (second : Throughout holds middle later) :
    Throughout holds earlier later where
  suffix := first.suffix.trans second.suffix
  moments moment fromStart toEnd := by
    rcases List.suffix_or_suffix_of_suffix toEnd second.suffix with sooner | afterwards
    · exact first.moments moment fromStart sooner
    · exact second.moments moment afterwards toEnd

theorem cons (kept : Throughout holds earlier later) (call : Call) (next : holds (call :: later)) :
    Throughout holds earlier (call :: later) := by
  refine kept.trans ⟨List.suffix_cons call later, ?_⟩
  intro moment fromStart toEnd
  rcases List.suffix_cons_iff.mp toEnd with rfl | sooner
  · exact next
  · rw [← fromStart.eq_of_length_le sooner.length_le]
    exact kept.last

theorem imp {other : List Call → Prop} (kept : Throughout holds earlier later)
    (weaker : ∀ calls, holds calls → other calls) : Throughout other earlier later where
  suffix := kept.suffix
  moments moment fromStart toEnd := weaker moment (kept.moments moment fromStart toEnd)

theorem append (new : List Call) (start : holds earlier)
    (step : ∀ call ∈ new, ∀ calls, holds calls → holds (call :: calls)) :
    Throughout holds earlier (new ++ earlier) := by
  induction new with
  | nil => exact refl start
  | cons call rest ih =>
      have kept := ih fun other member => step other (List.mem_cons_of_mem call member)
      exact kept.cons call (step call List.mem_cons_self _ kept.last)

end Throughout

theorem suffix_of_absent {call : Call} {new calls moment : List Call} (absent : call ∉ new)
    (suffix : call :: moment <:+ new ++ calls) : call :: moment <:+ calls := by
  induction new with
  | nil => exact suffix
  | cons first rest ih =>
      rcases List.suffix_cons_iff.mp suffix with same | shorter
      · exact absurd (List.mem_cons.mpr (.inl (List.cons.inj same).1)) absent
      · exact ih (fun inside => absent (List.mem_cons_of_mem first inside)) shorter

/-! ## Bytes on the stream of a client -/

def takenBy (label : Nat) : Call → Bytes
  | .write (.client other) bytes (.ok count) => if other = label then bytes.take count else []
  | _ => []

def taken (label : Nat) (calls : List Call) : Bytes :=
  calls.reverse.flatMap (takenBy label)

theorem taken_append (label : Nat) (new calls : List Call) :
    taken label (new ++ calls) = taken label calls ++ taken label new := by
  simp [taken]

theorem taken_cons (label : Nat) (call : Call) (calls : List Call) :
    taken label (call :: calls) = taken label calls ++ takenBy label call := by
  simp [taken]

theorem taken_eq_nil (label : Nat) (calls : List Call)
    (silent : ∀ call ∈ calls, takenBy label call = []) : taken label calls = [] := by
  simpa [taken] using silent

theorem takenBy_other {label : Nat} {call : Call} (other : call.client? ≠ some label) :
    takenBy label call = [] := by
  unfold takenBy
  split
  · next client bytes count =>
      have different : client ≠ label := fun same => other (same ▸ rfl)
      rw [if_neg different]
  · rfl

/-! ## Clients and their ids -/

/-- A connection becomes a session once it has been switched to non-blocking. -/
def enrolledBy : Call → Option Nat
  | .unblock (.client label) none => some label
  | _ => none

def enrolled (calls : List Call) : List Nat :=
  calls.reverse.filterMap enrolledBy

/-- The client that an id was given to: ids count sessions from 1. -/
def named (calls : List Call) : Nat → Option Nat
  | 0 => none
  | id + 1 => (enrolled calls)[id]?

theorem enrolled_append (new calls : List Call) :
    enrolled (new ++ calls) = enrolled calls ++ enrolled new := by
  simp [enrolled]

theorem enrolled_eq_nil (calls : List Call)
    (noneEnrolled : ∀ call ∈ calls, enrolledBy call = none) :
    enrolled calls = [] := by
  simpa [enrolled] using noneEnrolled

theorem mem_enrolled {calls : List Call} {label : Nat} (member : label ∈ enrolled calls) :
    ∃ call ∈ calls, call.client? = some label := by
  obtain ⟨call, inside, enrolls⟩ := List.mem_filterMap.mp member
  refine ⟨call, List.mem_reverse.mp inside, ?_⟩
  unfold enrolledBy at enrolls
  split at enrolls
  · exact enrolls
  · cases enrolls

theorem mem_of_named {calls : List Call} {id label : Nat} (name : named calls id = some label) :
    label ∈ enrolled calls := by
  cases id with
  | zero => cases name
  | succ id => exact List.mem_of_getElem? name

theorem named_append (new : List Call) {calls : List Call} {id label : Nat}
    (name : named calls id = some label) : named (new ++ calls) id = some label := by
  cases id with
  | zero => cases name
  | succ id =>
      simp only [named, enrolled_append] at name ⊢
      rw [List.getElem?_append_left (List.getElem?_eq_some_iff.mp name).1, name]

theorem named_suffix {calls later : List Call} (suffix : calls <:+ later) {id label : Nat}
    (name : named calls id = some label) : named later id = some label := by
  obtain ⟨new, rfl⟩ := suffix
  exact named_append new name

end History
end PacketRelay
