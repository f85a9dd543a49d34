import PacketRelay.Proofs.Starting

/-!
What a failed start leaves at the path of the socket file. Main statement: nothing,
or what was there before, as long as no socket has been made. A socket that is made
and cannot listen or be switched to non-blocking is closed, but its file stays.
-/

namespace PacketRelay

open Kernel (Call FileTree)

inductive Leaves (path : String) (tree : FileTree) (faults : Kernel.Faults) (calls : List Call)
    (files : FileTree) : Prop where
  /-- No socket has been made, and at most what was in its way is gone. -/
  | tidy (unmade : .bind path none ∉ calls) (left : files = tree ∨ tree.remove path = .ok files)
      (entry : files.at? path = none ∨ files.at? path = tree.at? path)
  /-- The socket has been made, and its file is still there. -/
  | stray {errno : Errno} (made : .bind path none ∈ calls)
      (fault : faults.unblockChannel = some errno)
      (entry : path ≠ "" → files.at? path = some (.socket FileTree.bornMode))
  /-- The socket has got its file, but does not listen. -/
  | unheard {errno : Errno} (refused : .bind path (some (.os errno)) ∈ calls)
      (fault : faults.listen = some errno)
      (entry : path ≠ "" → files.at? path = some (.socket FileTree.bornMode))

variable {path : String} {tree files : FileTree} {faults : Kernel.Faults} {calls : List Call}

theorem Leaves.of_left (unmade : .bind path none ∉ calls)
    (left : files = tree ∨ tree.remove path = .ok files) : Leaves path tree faults calls files := by
  refine .tidy unmade left ?_
  rcases left with rfl | removes
  · exact .inr rfl
  · exact .inl (FileTree.at?_remove removes)

theorem Leaves.among {more : List Call} (leaves : Leaves path tree faults calls files)
    (same : ∀ failure, .bind path failure ∈ more ↔ .bind path failure ∈ calls) :
    Leaves path tree faults more files := by
  cases leaves with
  | tidy unmade left entry => exact .tidy (mt (same none).mp unmade) left entry
  | stray made fault entry => exact .stray ((same none).mpr made) fault entry
  | unheard refused fault entry => exact .unheard ((same _).mpr refused) fault entry

theorem Channel.Clearing.left {removal : Option IoError}
    (clearing : Clearing path tree removal files) :
    files = tree ∨ tree.remove path = .ok files := by
  cases clearing with
  | removed removes => exact .inr removes
  | missing => exact .inl rfl

theorem Channel.Binding.leaves {mode size : Nat} {failure : Failure}
    (binding : Binding path mode size tree faults (.error failure) calls files) :
    Leaves path tree faults calls files := by
  cases binding with
  | blocked => exact .of_left (by simp) (.inl rfl)
  | unmade clearing => exact .of_left (by simp) clearing.left
  | unheard clearing made fault =>
      exact .unheard (by simp) fault fun named => FileTree.at?_bind named made
  | abandoned clearing made fault =>
      exact .stray (by simp) fault fun named => FileTree.at?_bind named made

theorem Tunnel.Opening.unbound {name : String} {result : Except Failure String}
    (opening : Opening name faults result calls) (failure : Option IoError) :
    .bind path failure ∉ calls := by
  cases opening <;> simp

theorem Relay.Starting.leaves {settings : Settings} {kernel : Kernel} {failure : Failure}
    (starting : Starting settings kernel (.error failure) calls files) :
    Leaves settings.socketPath kernel.files kernel.faults calls files := by
  cases starting with
  | unchecked => exact .of_left (by simp) (.inl rfl)
  | unopened _ opening => exact .of_left (opening.unbound none) (.inl rfl)
  | unbound _ opening binding =>
      apply binding.leaves.among
      simp [opening.unbound]

theorem resolve_single (tree : FileTree) : tree.resolve "s" = .ok (.entry ["s"] false) := by
  have clean : "s".contains '\x00' = false := by simp
  have relative : "s".startsWith "/" = false := by simp
  have size : "s".utf8ByteSize = 1 := by decide
  have alone : "s".splitOn "/" = ["s"] := by
    unfold String.splitOn
    rw [if_neg (by decide)]
    unfold String.splitOnAux
    rw [if_neg (by decide), if_neg (by decide)]
    unfold String.splitOnAux
    rw [if_pos (by decide)]
    decide
  simp [FileTree.resolve, FileTree.splitLast, FileTree.walk, FileTree.origin, clean, relative,
    alone, size, FileTree.maxPathBytes, FileTree.maxNameBytes]

/-- Whichever stage refuses, bind and start leave the path of the socket as they found it
or empty, but for a socket that could not listen or be switched to non-blocking. -/
theorem refusal_leaves (kernel : Kernel) :
    (∀ path mode size failure, (Channel.bind path mode size kernel).1 = .error failure →
      let after := (Channel.bind path mode size kernel).2
      ∃ calls, kernel.Leads calls after.files after ∧
        Leaves path kernel.files kernel.faults calls after.files) ∧
    ∀ settings failure, (Relay.start settings kernel).1 = .error failure →
      let after := (Relay.start settings kernel).2
      ∃ calls, kernel.Leads calls after.files after ∧
        Leaves settings.socketPath kernel.files kernel.faults calls after.files := by
  constructor
  · intro path mode size failure refused after
    obtain ⟨calls, files, binding, leads⟩ := Channel.bind_binding path mode size kernel
    rw [refused] at binding
    rw [show after.files = files from leads.files]
    exact ⟨calls, leads, binding.leaves⟩
  · intro settings failure failed after
    obtain ⟨calls, files, starting, leads⟩ := Relay.start_starting settings kernel
    rw [failed] at starting
    rw [show after.files = files from leads.files]
    exact ⟨calls, leads, starting.leaves⟩

theorem refusal_leaves_directory :
    let kernel : Kernel := { files := ⟨[(["s"], .directory)]⟩ }
    let made := Channel.bind "s" 384 65536 kernel
    made.1 = .error (.channelRefused "s" (.os .isDirectory)) ∧
      made.2.files.at? "s" = some .directory := by
  intro kernel made
  have removal : kernel.files.remove "s" = .error (.os .isDirectory) := by
    simp [FileTree.remove, resolve_single, FileTree.find?, kernel]
  have refused : made.1 = .error (.channelRefused "s" (.os .isDirectory)) := by
    simp [made, Channel.bind, Channel.clear, Kernel.removeFile, Kernel.Faults.removal, kernel,
      removal, Errno.isDirectory, Errno.notFound]
  obtain ⟨calls, leads, leaves⟩ := (refusal_leaves kernel).1 "s" 384 65536 _ refused
  refine ⟨refused, ?_⟩
  cases leaves with
  | tidy _ left =>
      rcases left with same | removes
      · rw [same]
        simp [FileTree.at?, resolve_single, FileTree.find?, kernel]
      · cases removal.symm.trans removes
  | stray _ fault | unheard _ fault => cases fault

/-- The socket is closed, but a new file is left where there was none. -/
theorem stray_socket :
    let kernel : Kernel := { faults := { unblockChannel := some ⟨22⟩ } }
    let made := Channel.bind "s" 384 65536 kernel
    made.1 = .error (.channelRefused "s" (.os ⟨22⟩)) ∧ kernel.files.at? "s" = none ∧
      made.2.files.at? "s" = some (.socket FileTree.bornMode) := by
  intro kernel made
  have size : "s".utf8ByteSize = 1 := by decide
  have absent : kernel.files.remove "s" = .error (.os .notFound) := by
    simp [FileTree.remove, resolve_single, FileTree.find?, kernel]
  have binds :
      kernel.files.bind "s" = .ok (kernel.files.insert ["s"] (.socket FileTree.bornMode)) := by
    simp [FileTree.bind, resolve_single, FileTree.find?, kernel, size, FileTree.maxSocketPathBytes]
  have outcome : made = (.error (.channelRefused "s" (.os ⟨22⟩)), made.2) ∧
      made.2.files = kernel.files.insert ["s"] (.socket FileTree.bornMode) := by
    simp [made, Channel.bind, Channel.clear, Kernel.removeFile, Kernel.Faults.removal, absent,
      Kernel.bind, Kernel.Faults.socketFile, binds, Kernel.call, Kernel.unblock, Kernel.close,
      kernel]
  refine ⟨congrArg Prod.fst outcome.1, FileTree.at?_missing absent, ?_⟩
  rw [outcome.2]
  exact FileTree.at?_bind (by decide) binds

end PacketRelay
