import PacketRelay.Channel

/-!
What is left at the path of the socket file when the channel is closed. Main
statement: nothing, unless the removal was refused.
-/

namespace PacketRelay

open Kernel (FileTree)

namespace Kernel.FileTree

variable {tree left : FileTree} {path : String}

def Keeps (tree left : FileTree) : Prop :=
  ∀ place, tree.find? place = some .directory → left.find? place = some .directory

theorem keeps_erase {place : Location} (plain : tree.find? place ≠ some .directory) :
    tree.Keeps (tree.erase place) := by
  intro other found
  by_cases root : other = []
  · simp [find?, root]
  · have different : other ≠ place := fun same => plain (same ▸ found)
    rw [find?_erase _ _ _ root, if_neg different, found]

theorem walk_kept (keeps : tree.Keeps left) {here parent : Location} {names : List String}
    (walked : tree.walk here names = .ok parent) : left.walk here names = .ok parent := by
  induction names generalizing here with
  | nil => exact walked
  | cons name rest ih =>
      unfold walk at walked ⊢
      split
      · next stays => exact ih (by simpa [stays] using walked)
      · next moves =>
          rw [if_neg moves] at walked
          split
          · next up => exact ih (by simpa [up] using walked)
          · next down =>
              rw [if_neg down] at walked
              split
              · next long => simp [long] at walked
              · next short =>
                  rw [if_neg short] at walked
                  split at walked
                  · cases walked
                  · next found =>
                      rw [keeps _ found]
                      exact ih walked
                  · cases walked

/-- Whether an entry is there or not, the way to it is directories. -/
theorem resolve_kept (keeps : tree.Keeps left) {place : Location} {slash : Bool}
    (resolved : tree.resolve path = .ok (.entry place slash)) :
    left.resolve path = .ok (.entry place slash) ∧ place ≠ [] := by
  unfold resolve at resolved ⊢
  split
  · next nul => simp [nul] at resolved
  · next clean =>
      rw [if_neg clean] at resolved
      split
      · next blank => simp [blank] at resolved
      · next somePath =>
          rw [if_neg somePath] at resolved
          split
          · next long => simp [long] at resolved
          · next short =>
              rw [if_neg short] at resolved
              dsimp only at resolved ⊢
              split at resolved
              · cases resolved
              · next parent walked =>
                  split at resolved
                  · cases resolved
                  · next named =>
                      split at resolved
                      · cases resolved
                      · next fits =>
                          cases resolved
                          rw [walk_kept keeps walked]
                          simp only [if_neg named, if_neg fits]
                          exact ⟨trivial, by simp⟩

theorem at?_remove (removed : tree.remove path = .ok left) : left.at? path = none := by
  unfold remove at removed
  split at removed
  · cases removed
  · cases removed
  · next place slash resolved =>
      split at removed
      · cases removed
      · cases removed
      · next node plain found =>
          split at removed
          · cases removed
          · cases removed
            have notDirectory : tree.find? place ≠ some .directory := by
              rw [found]
              exact fun same => plain (Option.some.inj same)
            obtain ⟨again, inside⟩ := resolve_kept (keeps_erase notDirectory) resolved
            simp [at?, again, find?_erase _ _ _ inside]

theorem at?_missing (missing : tree.remove path = .error (.os .notFound)) :
    tree.at? path = none := by
  unfold remove at missing
  unfold at?
  split at missing
  · rfl
  · cases missing
  · next place slash resolved =>
      split at missing
      · next absent => simp [absent]
      · cases missing
      · next node plain found => split at missing <;> cases missing

end Kernel.FileTree

namespace Kernel.Faults

variable {faults : Faults} {tree left : FileTree} {path : String}

theorem removal_ok (removes : faults.removal path tree = .ok left) :
    tree.remove path = .ok left := by
  unfold removal at removes
  split at removes
  · exact removes
  · split at removes <;> cases removes

/-- What is called missing is missing. -/
theorem removal_missing (absent : faults.removal path tree = .error (.os .notFound)) :
    tree.remove path = .error (.os .notFound) := by
  unfold removal at absent
  split at absent
  · exact absent
  · next denial _ =>
      split at absent
      · cases absent
      · exact absurd (IoError.os.inj (Except.error.inj absent)) denial.present

end Kernel.Faults

namespace Channel

variable (channel : Channel) (kernel : Kernel)

theorem close_channel : (channel.close kernel).1 = { channel with isOpen := false } := by
  obtain ⟨path, size, isOpen⟩ := channel
  unfold close
  cases isOpen with
  | false => rfl
  | true =>
      rw [if_pos rfl]
      dsimp only
      split
      · rfl
      · split <;> rfl

theorem close_closed {channel : Channel} (closed : channel.isOpen = false) :
    channel.close kernel = (channel, kernel) := by
  simp [close, closed]

/-- The removal is tried once, right after the socket has been closed. -/
theorem close_calls {channel : Channel} (isOpen : channel.isOpen = true) :
    ∃ failure, (channel.close kernel).2.record.calls =
      .removeFile channel.path failure :: .close .channel :: kernel.record.calls := by
  unfold close Kernel.removeFile
  rw [if_pos isOpen]
  cases (kernel.close .channel).faults.removal channel.path (kernel.close .channel).files with
  | ok left => exact ⟨none, rfl⟩
  | error error =>
      dsimp only
      split <;> exact ⟨some error, rfl⟩

/-- The socket file is gone, unless its removal is refused; then nothing is changed. -/
theorem close_files {channel : Channel} (isOpen : channel.isOpen = true) :
    (channel.close kernel).2.files.at? channel.path = none ∨
      ∃ error, kernel.faults.removal channel.path kernel.files = .error error ∧
        error ≠ .os .notFound ∧ (channel.close kernel).2.files = kernel.files := by
  have same : (kernel.close .channel).faults.removal channel.path (kernel.close .channel).files =
    kernel.faults.removal channel.path kernel.files := rfl
  unfold close Kernel.removeFile
  rw [if_pos isOpen, same]
  cases removed : kernel.faults.removal channel.path kernel.files with
  | ok left => exact .inl (FileTree.at?_remove (Kernel.Faults.removal_ok removed))
  | error error =>
      by_cases missing : error = .os .notFound
      · subst missing
        exact .inl (FileTree.at?_missing (Kernel.Faults.removal_missing removed))
      · dsimp only
        rw [if_neg missing]
        exact .inr ⟨error, rfl, missing, rfl⟩

end Channel
end PacketRelay
