import PacketRelay.Proofs.Owning
import PacketRelay.Proofs.Starting

/-!
What a start does stage by stage. Main statement: a stage that fails leaves the later
ones undone and what was opened is closed again, and the interface asked for is the one
in the settings.
-/

namespace PacketRelay

open Kernel (Call Descriptor FileTree)

def Kernel.Call.onFiles : Call → Bool
  | .removeFile .. | .bind .. | .changeMode .. => true
  | _ => false

namespace History

def openedBy : Call → Option Descriptor
  | .openTunnel none => some .tunnel
  | .bind _ none => some .channel
  | _ => none

def opened (descriptor : Descriptor) (calls : List Call) : Nat :=
  (calls.filterMap openedBy).count descriptor

theorem opened_append (descriptor : Descriptor) (new calls : List Call) :
    opened descriptor (new ++ calls) = opened descriptor new + opened descriptor calls := by
  simp [opened]

theorem closings_append (descriptor : Descriptor) (new calls : List Call) :
    closings descriptor (new ++ calls) = closings descriptor new + closings descriptor calls := by
  simp [closings, closed, Nat.add_comm]

end History

open History (opened openedBy closings closed closedBy)

/-! ## The tunnel -/

namespace Tunnel

variable {name : String} {faults : Kernel.Faults} {failure : Failure} {calls : List Call}

theorem Opening.requested {result : Except Failure String}
    (opening : Opening name faults result calls)
    {asked : String} {flags : Nat} {refusal : Option Errno}
    (member : .attach asked flags refusal ∈ calls) : asked = requestedName name := by
  cases opening <;> simp_all

theorem Opening.onFiles {result : Except Failure String}
    (opening : Opening name faults result calls) : ∀ call ∈ calls, call.onFiles = false := by
  cases opening <;> simp [Call.onFiles]

theorem Opening.unavailable {errno : Errno} {result : Except Failure String}
    (opening : Opening name faults result calls) (fault : faults.ofTunnel = some errno) :
    result = .error (.tunnelUnavailable name errno) := by
  cases opening with
  | absent opens => simp_all [Kernel.Faults.ofTunnel]
  | unattached opens attaches => simp_all [Kernel.Faults.ofTunnel]
  | blocking opens attaches unblocks => simp_all [Kernel.Faults.ofTunnel]
  | ready faultless => simp [faultless] at fault

/-- A tunnel that cannot be used is closed, if it has been opened. -/
theorem Opening.released (opening : Opening name faults (.error failure) calls)
    (descriptor : Descriptor) :
    closings descriptor calls = opened descriptor calls ∧ opened descriptor calls ≤ 1 := by
  have once := List.count_le_length (a := descriptor) (l := [Descriptor.tunnel])
  cases opening with
  | absent => simp [opened, openedBy, closings, closed, closedBy, List.filterMap_cons]
  | unattached | blocking =>
      simpa [opened, openedBy, closings, closed, closedBy, List.filterMap_cons] using once

theorem Opening.held {given : String} (opening : Opening name faults (.ok given) calls)
    (descriptor : Descriptor) :
    closings descriptor calls = 0 ∧
      opened descriptor calls = [Descriptor.tunnel].count descriptor := by
  cases opening with
  | ready => simp [opened, openedBy, closings, closed, closedBy, List.filterMap_cons]

theorem cut_fits {room : Nat} {chars : List Char} (noNul : '\x00' ∉ chars)
    (fits : (String.ofList chars).utf8ByteSize ≤ room) : cut room chars = chars := by
  induction chars generalizing room with
  | nil => rfl
  | cons first rest ih =>
      obtain ⟨plain, later⟩ := not_or.mp (mt List.mem_cons.mpr noNul)
      rw [String.ofList_cons, String.utf8ByteSize_append, String.utf8ByteSize_singleton] at fits
      rw [cut, if_neg (Ne.symm plain), if_pos (by omega), ih later (by omega)]

/-- The interface that is asked for has the first bytes of the name, as many as fit. -/
def KeepsFirst (name : String) : Prop :=
  (requestedName name).toByteArray = name.toByteArray.extract 0 Settings.maxNameBytes

theorem requestedName_eq (fits : name.utf8ByteSize ≤ Settings.maxNameBytes)
    (whole : KeepsFirst name ∨ '\x00' ∉ name.toList) : requestedName name = name := by
  rcases whole with keeps | noNul
  · apply String.toByteArray_inj.mp
    rw [keeps, ← Nat.max_eq_left fits]
    exact ByteArray.extract_zero_max_size
  · rw [requestedName, cut_fits noNul (by rwa [String.ofList_toList]), String.ofList_toList]

end Tunnel

/-! ## The channel -/

namespace Channel

variable {path : String} {mode size : Nat} {tree files : FileTree} {faults : Kernel.Faults}
  {calls : List Call}

theorem Binding.unattached {result : Except Failure Channel}
    (binding : Binding path mode size tree faults result calls files) {asked : String} {flags : Nat}
    {refusal : Option Errno} : .attach asked flags refusal ∉ calls := by
  cases binding with
  | blocked | unmade | unheard | abandoned => simp
  | listening clearing made unblocks fitting =>
      intro member
      rcases List.mem_append.mp member with fitted | setUp
      · cases fitting _ fitted
      · simp at setUp

theorem Binding.released {failure : Failure}
    (binding : Binding path mode size tree faults (.error failure) calls files)
    (descriptor : Descriptor) :
    closings descriptor calls = opened descriptor calls ∧
      opened descriptor calls ≤ [Descriptor.channel].count descriptor := by
  cases binding with
  | blocked | unmade | unheard | abandoned =>
      simp [opened, openedBy, closings, closed, closedBy, List.filterMap_cons]

end Channel

/-! ## The relay -/

namespace Relay

variable {settings : Settings} {kernel : Kernel} {result : Except Failure Relay}
  {calls : List Call} {files : FileTree}

theorem start_unchecked {fault : Settings.Fault} (check : settings.check = .error fault)
    (kernel : Kernel) : start settings kernel = (.error (.settings fault), kernel) := by
  rw [start, check]

/-- If there is no tunnel the files are not looked at. -/
theorem Starting.unavailable (starting : Starting settings kernel result calls files)
    (checked : settings.check = .ok ()) {errno : Errno}
    (fault : kernel.faults.ofTunnel = some errno) :
    result = .error (.tunnelUnavailable settings.tunnelName errno) ∧ files = kernel.files ∧
      ∀ call ∈ calls, call.onFiles = false := by
  cases starting with
  | unchecked check => simp [check] at checked
  | unopened _ opening =>
      cases opening.unavailable fault
      exact ⟨rfl, rfl, opening.onFiles⟩
  | unbound _ opening | started _ opening => cases opening.unavailable fault

/-- Whatever has been opened by a start that fails is closed by it, once. -/
theorem Starting.released {failure : Failure}
    (starting : Starting settings kernel (.error failure) calls files) (descriptor : Descriptor) :
    closings descriptor calls = opened descriptor calls ∧ opened descriptor calls ≤ 1 := by
  cases starting with
  | unchecked => exact ⟨rfl, Nat.zero_le 1⟩
  | unopened _ opening => exact opening.released descriptor
  | @unbound _ _ opens binds _ _ opening binding =>
      obtain ⟨unclosed, held⟩ := opening.held descriptor
      obtain ⟨released, bound⟩ := binding.released descriptor
      have one :
          [Descriptor.channel].count descriptor + [Descriptor.tunnel].count descriptor ≤ 1 := by
        cases descriptor <;> simp
      have closing : closings descriptor (.close .tunnel :: (binds ++ opens)) =
          closings descriptor binds + [Descriptor.tunnel].count descriptor := by
        rw [History.closings_close, History.closings_append, unclosed, Nat.add_zero]
      have opening : opened descriptor (.close .tunnel :: (binds ++ opens)) =
          opened descriptor binds + [Descriptor.tunnel].count descriptor := by
        rw [← held, ← History.opened_append]
        rfl
      omega

theorem checked_fits (checked : settings.check = .ok ()) :
    settings.tunnelName.utf8ByteSize ≤ Settings.maxNameBytes := by
  unfold Settings.check at checked
  split at checked
  · cases checked
  · next fits => omega

theorem Starting.asks (starting : Starting settings kernel result calls files) {name : String}
    {flags : Nat} {refusal : Option Errno} (member : .attach name flags refusal ∈ calls) :
    settings.check = .ok () ∧ name = Tunnel.requestedName settings.tunnelName := by
  cases starting with
  | unchecked => cases member
  | unopened checked opening => exact ⟨checked, opening.requested member⟩
  | unbound checked opening binding =>
      rcases List.mem_append.mp (List.mem_of_ne_of_mem (by simp) member) with binds | opens
      · exact absurd binds binding.unattached
      · exact ⟨checked, opening.requested opens⟩
  | started checked opening binding =>
      rcases List.mem_append.mp member with binds | opens
      · exact absurd binds binding.unattached
      · exact ⟨checked, opening.requested opens⟩

structure Staged (settings : Settings) (kernel : Kernel) (result : Except Failure Relay)
    (calls : List Call) (after : Kernel) : Prop where
  record : after.record.calls = calls ++ kernel.record.calls
  unchecked : ∀ fault, settings.check = .error fault →
    result = .error (.settings fault) ∧ after = kernel
  /-- If there is no tunnel the files are not looked at. -/
  unavailable : settings.check = .ok () → ∀ errno, kernel.faults.ofTunnel = some errno →
    result = .error (.tunnelUnavailable settings.tunnelName errno) ∧
      after.files = kernel.files ∧ ∀ call ∈ calls, call.onFiles = false
  released : ∀ failure, result = .error failure → ∀ descriptor,
    closings descriptor calls = opened descriptor calls ∧ opened descriptor calls ≤ 1
  /-- The interface asked for is the one in the settings, unless its name holds a NUL and
  the request ends there. -/
  requested : Tunnel.KeepsFirst settings.tunnelName ∨ '\x00' ∉ settings.tunnelName.toList →
    ∀ name flags refusal, .attach name flags refusal ∈ calls → name = settings.tunnelName

/-- A start goes by stages. One that fails leaves the later ones undone and closes what the
earlier ones opened. -/
theorem start_staged (settings : Settings) (kernel : Kernel) : ∃ calls,
    Staged settings kernel (start settings kernel).1 calls (start settings kernel).2 := by
  obtain ⟨calls, files, starting, leads⟩ := start_starting settings kernel
  refine ⟨calls, leads.calls, ?_, ?_, ?_, ?_⟩
  · intro fault check
    rw [start_unchecked check]
    exact ⟨rfl, rfl⟩
  · intro checked errno fault
    rw [leads.files]
    exact starting.unavailable checked fault
  · intro failure failed descriptor
    rw [failed] at starting
    exact starting.released descriptor
  · intro whole name flags refusal member
    obtain ⟨checked, asked⟩ := starting.asks member
    rw [asked, Tunnel.requestedName_eq (checked_fits checked) whole]

/-- Another relay has the interface, and its socket is still at the path. -/
theorem start_staged_busy :
    let settings : Settings := { tunnelName := "tunnel-für-bü", socketPath := "s" }
    let kernel : Kernel :=
      { files := ⟨[(["s"], .socket 511)]⟩, faults := { attach := some ⟨16⟩ } }
    let made := start settings kernel
    made.1 = .error (.tunnelUnavailable "tunnel-für-bü" ⟨16⟩) ∧ made.2.files = kernel.files ∧
      opened .tunnel made.2.record.calls = 1 ∧ closings .tunnel made.2.record.calls = 1 ∧
      .attach "tunnel-für-bü" Tunnel.rawPackets (some ⟨16⟩) ∈ made.2.record.calls := by
  intro settings kernel made
  obtain ⟨calls, staged⟩ := start_staged settings kernel
  have checked : settings.check = .ok () := by decide +kernel
  obtain ⟨failed, files, _⟩ := staged.unavailable checked ⟨16⟩ rfl
  have record : made.2.record.calls = calls := staged.record.trans (List.append_nil calls)
  have one : opened .tunnel made.2.record.calls = 1 := by decide +kernel
  have released := (staged.released _ failed .tunnel).1
  have asked : .attach (Tunnel.requestedName settings.tunnelName) Tunnel.rawPackets (some ⟨16⟩) ∈
      made.2.record.calls := by
    simp only [made, start, checked]
    exact List.mem_cons_of_mem _ List.mem_cons_self
  have keeps : Tunnel.KeepsFirst settings.tunnelName := by
    unfold Tunnel.KeepsFirst
    decide +kernel
  have whole := staged.requested (.inl keeps) _ _ _ (record ▸ asked)
  rw [whole] at asked
  refine ⟨failed, files, one, ?_, asked⟩
  rw [← one, record]
  exact released

end Relay
end PacketRelay
