import PacketRelay.Proofs.Starting
import PacketRelay.Relay.Pass

/-!
A relay among its moves. The world writes scripts and makes connections, the
relay makes passes or is shut down, in any order.
-/

namespace PacketRelay

namespace Kernel

structure Supply where
  inbound : List Arrival := []
  outbound : List Intake := []
  /-- A new bound on what unscripted writes may take, if there is one. -/
  room : Option (Option Nat) := none
  forced : Option Flags := none

def Endpoint.add (supply : Supply) (endpoint : Endpoint) : Endpoint :=
  { inbound := endpoint.inbound ++ supply.inbound
    outbound := endpoint.outbound ++ supply.outbound
    room := supply.room.getD endpoint.room
    forced := supply.forced.or endpoint.forced }

inductive Deed where
  /-- New clients connect; their switch to non-blocking will meet the fault. -/
  | connect (count : Nat) (fault : Option Errno)
  /-- A later accept will fail. -/
  | refuse (errno : Errno)
  | supplyTunnel (supply : Supply)
  | supplyClient (label : Nat) (supply : Supply)
  | forceChannel (flags : Flags)
  | failPoll (errno : Errno)
  | failResize (fault : Option Errno)
  /-- The system will not remove files, for whatever reason, or it will again. -/
  | denyRemoval (denial : Option Denial)
  | changeFiles (files : FileTree)

end Kernel

open Kernel (Deed)

def Kernel.undergo : Deed → Kernel → Kernel
  | .connect count fault, kernel => kernel.connect count fault
  | .refuse errno, kernel => { kernel with knocks := kernel.knocks ++ [.failure errno] }
  | .supplyTunnel supply, kernel => { kernel with tunnel := kernel.tunnel.add supply }
  | .supplyClient label supply, kernel =>
      kernel.setClient label ((kernel.client label).add supply)
  | .forceChannel flags, kernel => { kernel with channelForced := some flags }
  | .failPoll errno, kernel => { kernel with pollFaults := kernel.pollFaults ++ [errno] }
  | .failResize fault, kernel => { kernel with faults.resize := fault }
  | .denyRemoval denial, kernel => { kernel with faults.removeFile := denial }
  | .changeFiles files, kernel => { kernel with files }

inductive Move where
  | world (deed : Deed)
  | pass
  | shutdown

namespace Site

def move : Move → Site → Except Failure Unit × Site
  | .world deed, site => (.ok (), { site with kernel := site.kernel.undergo deed })
  | .pass, site => site.pass
  | .shutdown, site => (.ok (), site.shutdown)

/-- Makes the moves one after another, whether a pass fails or not. -/
def play : List Move → Site → Site
  | [], site => site
  | made :: rest, site => (site.move made).2.play rest

def unfailing : List Move → Site → Bool
  | [], _ => true
  | made :: rest, site => (site.move made).1.isOk && (site.move made).2.unfailing rest

end Site

/-! ## The start -/

def Kernel.Call.isOpening : Kernel.Call → Bool
  | .openTunnel _ | .attach .. | .unblock .tunnel _ | .unblock .channel _
  | .resize .channel .. | .removeFile .. | .bind .. | .changeMode .. => true
  | _ => false

/-- No client has come yet, and no call has been made but those of opening. -/
structure Kernel.Opening (kernel : Kernel) : Prop where
  knocks : kernel.knocks = []
  calls : ∀ call ∈ kernel.record.calls, call.isOpening = true
  notices : ∀ notice ∈ kernel.record.notices, notice.isParting = false

structure Site.Opened (site : Site) : Prop extends site.kernel.Opening where
  relay : ∃ name channel settings, channel.isOpen = true ∧
    site.relay = Relay.withTunnel name channel settings

/-- A relay as it is after opening, on a kernel that remembers nothing of it. -/
def Site.fresh (settings : Settings) : Site :=
  ⟨.withTunnel settings.tunnelName ⟨settings.socketPath, settings.socketBufferSize, true⟩ settings,
    {}⟩

theorem Site.fresh_opened (settings : Settings) : (Site.fresh settings).Opened where
  knocks := rfl
  calls := by simp [fresh]
  notices := by simp [fresh]
  relay := ⟨_, _, _, rfl, rfl⟩

theorem Tunnel.Opening.isOpening {name given : String} {faults : Kernel.Faults}
    {calls : List Kernel.Call} (opening : Opening name faults (.ok given) calls) :
    ∀ call ∈ calls, call.isOpening = true := by
  cases opening with
  | ready => simp [Kernel.Call.isOpening]

theorem Channel.Binding.isOpening {path : String} {mode size : Nat} {tree files : Kernel.FileTree}
    {faults : Kernel.Faults} {channel : Channel} {calls : List Kernel.Call}
    (binding : Binding path mode size tree faults (.ok channel) calls files) :
    (∀ call ∈ calls, call.isOpening = true) ∧ channel.isOpen = true := by
  cases binding with
  | listening clearing made unblocks fitting =>
      refine ⟨?_, rfl⟩
      intro call member
      rcases List.mem_append.mp member with fitted | bound
      · cases fitting call fitted <;> rfl
      · simp only [List.mem_cons, List.not_mem_nil, or_false] at bound
        rcases bound with rfl | rfl | rfl <;> rfl

theorem start_opened {settings : Settings} {kernel after : Kernel} {relay : Relay}
    (knocks : kernel.knocks = []) (record : kernel.record = {})
    (made : Relay.start settings kernel = (.ok relay, after)) :
    Site.Opened ⟨relay, after⟩ := by
  obtain ⟨calls, files, starting, leads⟩ := Relay.start_starting settings kernel
  rw [made] at starting leads
  obtain ⟨news, noted, plain⟩ := leads.notices
  have called := leads.calls
  rw [record, List.append_nil] at noted called
  cases starting with
  | started checked opening binding =>
      obtain ⟨bound, isOpen⟩ := binding.isOpening
      refine ⟨⟨leads.knocks.trans knocks, ?_, noted ▸ plain⟩, _, _, _, isOpen, rfl⟩
      rw [called]
      intro call member
      rcases List.mem_append.mp member with binds | opens
      · exact bound call binds
      · exact opening.isOpening call opens

end PacketRelay
