import PacketRelay.Proofs.Binding
import PacketRelay.Relay.Basic

/-!
Every way in which a relay can be started or refused: the settings are checked, the
tunnel is opened, the channel is bound, and the first of these that fails is the end.
-/

namespace PacketRelay

open Kernel (Call FileTree)

def Kernel.Faults.ofTunnel (faults : Faults) : Option Errno :=
  faults.openTunnel <|> faults.attach <|> faults.unblockTunnel

namespace Tunnel

/-- The ways in which opening the tunnel can go, each with its calls, newest first. -/
inductive Opening (name : String) (faults : Kernel.Faults) :
    Except Failure String → List Call → Prop where
  | absent {errno : Errno} (fault : faults.openTunnel = some errno) :
      Opening name faults (.error (.tunnelUnavailable name errno)) [.openTunnel (some errno)]
  | unattached {errno : Errno} (opens : faults.openTunnel = none)
      (fault : faults.attach = some errno) :
      Opening name faults (.error (.tunnelUnavailable name errno))
        [.close .tunnel, .attach (requestedName name) rawPackets (some errno), .openTunnel none]
  | blocking {errno : Errno} (opens : faults.openTunnel = none) (attaches : faults.attach = none)
      (fault : faults.unblockTunnel = some errno) :
      Opening name faults (.error (.tunnelUnavailable name errno))
        [.close .tunnel, .unblock .tunnel (some errno),
          .attach (requestedName name) rawPackets none, .openTunnel none]
  | ready {given : String} (faultless : faults.ofTunnel = none) :
      Opening name faults (.ok given)
        [.unblock .tunnel none, .attach (requestedName name) rawPackets none, .openTunnel none]

theorem open_opening (name : String) (kernel : Kernel) : ∃ calls,
    Opening name kernel.faults (open? name kernel).1 calls ∧
      kernel.Leads calls kernel.files (open? name kernel).2 := by
  have start := Kernel.Leads.refl kernel
  unfold open? Kernel.openTunnel
  cases opens : kernel.faults.openTunnel with
  | some errno => exact ⟨_, .absent opens, start.call _⟩
  | none =>
      dsimp only [Kernel.attach]
      rw [show (kernel.call (.openTunnel none)).faults = kernel.faults from rfl]
      cases attaches : kernel.faults.attach with
      | some errno => exact ⟨_, .unattached opens attaches, ((start.call _).call _).call _⟩
      | none =>
          dsimp only [Kernel.unblock]
          rw [show ((kernel.call (.openTunnel none)).call
            (.attach (requestedName name) rawPackets none)).faults = kernel.faults from rfl]
          cases unblocks : kernel.faults.unblockTunnel with
          | some errno =>
              exact ⟨_, .blocking opens attaches unblocks,
                (((start.call _).call _).call _).call _⟩
          | none =>
              have faultless : kernel.faults.ofTunnel = none := by
                simp [Kernel.Faults.ofTunnel, opens, attaches, unblocks]
              exact ⟨_, .ready faultless, (((start.call _).call _).call _).note rfl⟩

end Tunnel

namespace Relay

/-- The ways in which a start can go, each with its calls, newest first, and the files it leaves. -/
inductive Starting (settings : Settings) (kernel : Kernel) :
    Except Failure Relay → List Call → FileTree → Prop where
  | unchecked {fault : Settings.Fault} (check : settings.check = .error fault) :
      Starting settings kernel (.error (.settings fault)) [] kernel.files
  | unopened {failure : Failure} {calls : List Call} (checked : settings.check = .ok ())
      (opening : Tunnel.Opening settings.tunnelName kernel.faults (.error failure) calls) :
      Starting settings kernel (.error failure) calls kernel.files
  | unbound {given : String} {failure : Failure} {opens binds : List Call} {files : FileTree}
      (checked : settings.check = .ok ())
      (opening : Tunnel.Opening settings.tunnelName kernel.faults (.ok given) opens)
      (binding : Channel.Binding settings.socketPath settings.socketMode settings.socketBufferSize
        kernel.files kernel.faults (.error failure) binds files) :
      Starting settings kernel (.error failure) (.close .tunnel :: (binds ++ opens)) files
  | started {given : String} {channel : Channel} {opens binds : List Call} {files : FileTree}
      (checked : settings.check = .ok ())
      (opening : Tunnel.Opening settings.tunnelName kernel.faults (.ok given) opens)
      (binding : Channel.Binding settings.socketPath settings.socketMode settings.socketBufferSize
        kernel.files kernel.faults (.ok channel) binds files) :
      Starting settings kernel (.ok (withTunnel given channel settings)) (binds ++ opens) files

theorem start_starting (settings : Settings) (kernel : Kernel) : ∃ calls files,
    Starting settings kernel (start settings kernel).1 calls files ∧
      kernel.Leads calls files (start settings kernel).2 := by
  unfold start
  cases checked : settings.check with
  | error fault => exact ⟨_, _, .unchecked checked, .refl kernel⟩
  | ok _ =>
      obtain ⟨opens, opening, opened⟩ := Tunnel.open_opening settings.tunnelName kernel
      generalize Tunnel.open? settings.tunnelName kernel = made at opening opened
      obtain ⟨failure | given, middle⟩ := made
      · exact ⟨_, _, .unopened checked opening, opened⟩
      · obtain ⟨binds, files, binding, bound⟩ := Channel.bind_binding settings.socketPath
          settings.socketMode settings.socketBufferSize middle
        rw [opened.files, opened.faults] at binding
        have both := opened.trans bound
        dsimp only
        generalize Channel.bind settings.socketPath settings.socketMode settings.socketBufferSize
          middle = made at binding both
        obtain ⟨failure | channel, after⟩ := made
        · exact ⟨_, _, .unbound checked opening binding, both.call _⟩
        · exact ⟨_, _, .started checked opening binding, both⟩

end Relay
end PacketRelay
