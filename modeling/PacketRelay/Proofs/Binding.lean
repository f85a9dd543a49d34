import PacketRelay.Proofs.Accepting
import PacketRelay.Proofs.Removing

/-!
Every way in which the channel can be bound or refused: the result, the calls made
and the files left. A file that is in the way is gone by the time the socket is
made, so a refusal leaves what was there or nothing, unless it comes after that.
-/

namespace PacketRelay

open Kernel (Call FileTree)

namespace Kernel

/-- From one kernel to another by these calls, newest first, which leave these files.
The faults stay as they are set, and nobody comes or parts. -/
structure Leads (kernel : Kernel) (calls : List Call) (files : FileTree) (after : Kernel) :
    Prop where
  faults : after.faults = kernel.faults
  knocks : after.knocks = kernel.knocks
  calls : after.record.calls = calls ++ kernel.record.calls
  notices : ∃ news, after.record.notices = news ++ kernel.record.notices ∧
    ∀ notice ∈ news, notice.isParting = false
  files : after.files = files

namespace Leads

variable {kernel middle after : Kernel} {calls later : List Call} {files left : FileTree}

theorem refl (kernel : Kernel) : kernel.Leads [] kernel.files kernel :=
  ⟨rfl, rfl, rfl, ⟨[], rfl, by simp⟩, rfl⟩

theorem trans (first : kernel.Leads calls files middle) (second : middle.Leads later left after) :
    kernel.Leads (later ++ calls) left after where
  faults := second.faults.trans first.faults
  knocks := second.knocks.trans first.knocks
  calls := by rw [second.calls, first.calls, List.append_assoc]
  notices := by
    obtain ⟨news, noted, plain⟩ := first.notices
    obtain ⟨latest, notedLater, laterPlain⟩ := second.notices
    refine ⟨latest ++ news, by rw [notedLater, noted, List.append_assoc], ?_⟩
    intro notice member
    rcases List.mem_append.mp member with new | old
    · exact laterPlain notice new
    · exact plain notice old
  files := second.files

theorem note (leads : kernel.Leads calls files after) {notice : Log.Notice}
    (plain : notice.isParting = false) : kernel.Leads calls files (after.note notice) := by
  have noted : after.Leads [] files (after.note notice) :=
    ⟨rfl, rfl, rfl, ⟨[notice], rfl, by simpa using plain⟩, leads.files⟩
  exact leads.trans noted

theorem change (leads : kernel.Leads calls files after) (made : Call) (left : FileTree) :
    kernel.Leads (made :: calls) left ({ after with files := left }.call made) := by
  have changed : after.Leads [made] left ({ after with files := left }.call made) :=
    ⟨rfl, rfl, rfl, ⟨[], rfl, by simp⟩, rfl⟩
  exact leads.trans changed

theorem call (leads : kernel.Leads calls files after) (made : Call) :
    kernel.Leads (made :: calls) files (after.call made) :=
  leads.files ▸ leads.change made after.files

end Leads

namespace FileTree

variable {tree left : FileTree} {path : String}

theorem keeps_insert {place : Location} (absent : tree.find? place = none) (node : Node)
    (inside : place ≠ []) : tree.Keeps (tree.insert place node) := by
  intro other found
  have different : other ≠ place := by
    rintro rfl
    rw [absent] at found
    cases found
  rw [find?_insert _ _ _ _ inside, if_neg different, found]

theorem at?_bind (named : path ≠ "") (made : tree.bind path = .ok left) :
    left.at? path = some (.socket bornMode) := by
  unfold bind at made
  split at made
  · cases made
  · split at made
    · cases made
    · cases made
    · next place slash resolved =>
        split at made
        · cases made
        · next absent =>
            split at made
            · cases made
            · next plain =>
                cases made
                obtain ⟨_, inside⟩ := resolve_kept (fun _ found => found) resolved
                obtain ⟨again, _⟩ :=
                  resolve_kept (keeps_insert absent (.socket bornMode) inside) resolved
                simp [at?, again, find?_insert _ _ _ _ inside, plain]

end FileTree

theorem Faults.socketFile_ok {faults : Faults} {path : String} {tree left : FileTree}
    (made : faults.socketFile path tree = .ok left) : tree.bind path = .ok left := by
  unfold socketFile at made
  split at made
  · cases made
  · exact made
  · split at made
    · cases made
    · split at made <;> cases made

end Kernel

namespace Channel

inductive Clearing (path : String) (files : FileTree) : Option IoError → FileTree → Prop where
  | removed {left : FileTree} (removes : files.remove path = .ok left) :
      Clearing path files none left
  | missing (absent : files.remove path = .error (.os .notFound)) :
      Clearing path files (some (.os .notFound)) files

inductive Fitting (path : String) (mode : Nat) : Call → Prop where
  | resized (buffer : Kernel.Buffer) (size : Int) (failure : Option Errno) :
      Fitting path mode (.resize .channel buffer size failure)
  | moded (failure : Option IoError) : Fitting path mode (.changeMode path mode failure)

/-- The ways in which binding can go, each with its calls, newest first, and the files it leaves. -/
inductive Binding (path : String) (mode size : Nat) (tree : FileTree)
    (faults : Kernel.Faults) : Except Failure Channel → List Call → FileTree → Prop where
  | blocked {error : IoError} (refused : faults.removal path tree = .error error)
      (present : error ≠ .os .notFound) :
      Binding path mode size tree faults (.error (.channelRefused path error))
        [.removeFile path (some error)] tree
  | unmade {error : IoError} {removal : Option IoError} {files : FileTree}
      (clearing : Clearing path tree removal files)
      (refused : faults.socketFile path files = .error error) :
      Binding path mode size tree faults (.error (.channelRefused path error))
        [.bind path (some error), .removeFile path removal] files
  /-- The socket is given up within the call that made it. -/
  | unheard {errno : Errno} {removal : Option IoError} {files bound : FileTree}
      (clearing : Clearing path tree removal files) (made : files.bind path = .ok bound)
      (fault : faults.listen = some errno) :
      Binding path mode size tree faults (.error (.channelRefused path (.os errno)))
        [.bind path (some (.os errno)), .removeFile path removal] bound
  | abandoned {errno : Errno} {removal : Option IoError} {files bound : FileTree}
      (clearing : Clearing path tree removal files) (made : files.bind path = .ok bound)
      (fault : faults.unblockChannel = some errno) :
      Binding path mode size tree faults (.error (.channelRefused path (.os errno)))
        [.close .channel, .unblock .channel (some errno), .bind path none, .removeFile path removal]
        bound
  | listening {removal : Option IoError} {files bound left : FileTree} {fitted : List Call}
      (clearing : Clearing path tree removal files) (made : files.bind path = .ok bound)
      (unblocks : faults.unblockChannel = none)
      (fitting : ∀ call ∈ fitted, Fitting path mode call) :
      Binding path mode size tree faults (.ok { path, bufferSize := size })
        (fitted ++ [.unblock .channel none, .bind path none, .removeFile path removal]) left

variable {path : String} {kernel base : Kernel} {calls : List Call} {files : FileTree}

theorem clear_leads (path : String) (kernel : Kernel) : ∃ after,
    (∃ removal files, Clearing path kernel.files removal files ∧
      clear path kernel = (.ok (), after) ∧ kernel.Leads [.removeFile path removal] files after) ∨
    ∃ error, kernel.faults.removal path kernel.files = .error error ∧ error ≠ .os .notFound ∧
      clear path kernel = (.error error, after) ∧
      kernel.Leads [.removeFile path (some error)] kernel.files after := by
  have start := Kernel.Leads.refl kernel
  unfold clear Kernel.removeFile
  cases removes : kernel.faults.removal path kernel.files with
  | ok left =>
      have removed := Kernel.Faults.removal_ok removes
      exact ⟨_, .inl ⟨none, left, .removed removed, rfl, (start.change _ left).note rfl⟩⟩
  | error error =>
      by_cases missing : error = .os .notFound
      · subst missing
        have absent := Kernel.Faults.removal_missing removes
        exact ⟨_, .inl ⟨_, _, .missing absent, rfl, start.call _⟩⟩
      · dsimp only
        rw [if_neg missing]
        exact ⟨_, .inr ⟨error, rfl, missing, rfl, start.call _⟩⟩

theorem bindFile_leads (leads : base.Leads calls files kernel) (path : String) : ∃ after,
    (∃ bound, files.bind path = .ok bound ∧ kernel.bind path = (.ok (), after) ∧
      base.Leads (.bind path none :: calls) bound after) ∨
    (∃ error, kernel.faults.socketFile path files = .error error ∧
      kernel.bind path = (.error error, after) ∧
      base.Leads (.bind path (some error) :: calls) files after) ∨
    ∃ errno bound, files.bind path = .ok bound ∧ kernel.faults.listen = some errno ∧
      kernel.bind path = (.error (.os errno), after) ∧
      base.Leads (.bind path (some (.os errno)) :: calls) bound after := by
  unfold Kernel.bind
  rw [leads.files]
  cases made : kernel.faults.socketFile path files with
  | error error => exact ⟨_, .inr (.inl ⟨error, rfl, rfl, leads.call _⟩)⟩
  | ok bound =>
      have bounds := Kernel.Faults.socketFile_ok made
      cases deaf : kernel.faults.listen with
      | none => exact ⟨_, .inl ⟨bound, bounds, rfl, leads.change _ bound⟩⟩
      | some errno =>
          exact ⟨_, .inr (.inr ⟨errno, bound, bounds, rfl, rfl, leads.change _ bound⟩)⟩

theorem setMode_leads (path : String) (mode : Nat) (kernel : Kernel) :
    ∃ failure left, kernel.Leads [.changeMode path mode failure] left
      (setMode path mode kernel) := by
  have start := Kernel.Leads.refl kernel
  unfold setMode Kernel.changeMode
  cases kernel.faults.changeMode with
  | some errno => exact ⟨_, _, (start.call _).note rfl⟩
  | none =>
      cases kernel.files.changeMode path mode with
      | ok left => exact ⟨_, _, start.change _ left⟩
      | error error => exact ⟨_, _, (start.call _).note rfl⟩

theorem resizing_plain (size : Nat) (fault : Option Errno) (buffer : Kernel.Buffer) :
    ∀ notice ∈ (resizing .channel size fault buffer).notices, notice.isParting = false := by
  cases fault <;> simp [resizing, Log.Notice.isParting]

theorem enlarge_leads (size : Nat) (kernel : Kernel) :
    kernel.Leads ((resizing .channel size kernel.faults.resize .send).calls ++
      (resizing .channel size kernel.faults.resize .receive).calls) kernel.files
        (enlarge .channel size kernel) := by
  rw [enlarge_eq]
  refine ⟨rfl, rfl, rfl, ⟨_, rfl, ?_⟩, rfl⟩
  intro notice member
  rcases List.mem_append.mp member with sending | receiving
  · exact resizing_plain size _ .send notice sending
  · exact resizing_plain size _ .receive notice receiving

theorem fit_leads (path : String) (mode size : Nat) (kernel : Kernel) :
    ∃ fitted left, (∀ call ∈ fitted, Fitting path mode call) ∧
      kernel.Leads fitted left (setMode path mode (enlarge .channel size kernel)) := by
  obtain ⟨failure, left, moded⟩ := setMode_leads path mode (enlarge .channel size kernel)
  refine ⟨_, left, ?_, (enlarge_leads size kernel).trans moded⟩
  intro call member
  simp only [resizing, List.mem_append, List.mem_singleton] at member
  rcases member with rfl | rfl | rfl
  · exact .moded failure
  · exact .resized _ _ _
  · exact .resized _ _ _

theorem bind_binding (path : String) (mode size : Nat) (kernel : Kernel) :
    ∃ calls files,
      Binding path mode size kernel.files kernel.faults (bind path mode size kernel).1 calls files ∧
      kernel.Leads calls files (bind path mode size kernel).2 := by
  unfold bind
  obtain ⟨middle, ⟨removal, files, clearing, cleared, leads⟩ |
    ⟨error, refused, present, cleared, leads⟩⟩ := clear_leads path kernel
  · rw [cleared]
    have faults := leads.faults
    obtain ⟨after, ⟨bound, made, binds, leads⟩ | ⟨error, refused, binds, leads⟩ |
      ⟨errno, bound, made, deaf, binds, leads⟩⟩ := bindFile_leads leads path
    · simp only [binds, leads.faults]
      cases fault : kernel.faults.unblockChannel with
      | some errno => exact ⟨_, _, .abandoned clearing made fault, (leads.call _).call _⟩
      | none =>
          obtain ⟨fitted, left, fitting, fits⟩ :=
            fit_leads path mode size (after.call (.unblock .channel none))
          exact ⟨_, _, .listening clearing made fault fitting, ((leads.call _).trans fits).note rfl⟩
    · simp only [binds]
      exact ⟨_, _, .unmade clearing (faults ▸ refused), leads⟩
    · simp only [binds]
      exact ⟨_, _, .unheard clearing made (faults ▸ deaf), leads⟩
  · rw [cleared]
    exact ⟨_, _, .blocked refused present, leads⟩

end Channel
end PacketRelay
