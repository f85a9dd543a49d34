import PacketRelay.Proofs.Interruptions
import PacketRelay.Proofs.Reaching
import PacketRelay.Proofs.Removing

/-!
Which failures end a pass. Main statement: a pass fails exactly when its poll, a
read from the tunnel or a write to the tunnel fails with an error that is not
passed over there, and that call is its last one. So a pass fails only if such an
error was in store for the poll or the tunnel.
-/

namespace PacketRelay

open Kernel (Call Endpoint Flags Handle)

/-- The failure that a call comes to, unless its result is one to be passed over. -/
def Kernel.Call.failure? : Call → Option Failure
  | .poll _ _ (.error errno) => if errno = .interrupted then none else some (.poll errno)
  | .read .tunnel _ (.error errno) =>
      if errno = .interrupted ∨ errno = .again then none else some (.tunnelIo errno)
  | .write .tunnel _ (.error errno) =>
      if errno = .interrupted ∨ errno = .again ∨ errno = .invalid then none
      else some (.tunnelIo errno)
  | _ => none

namespace History

/-- The record grows by harmless calls until the first that fails, if one does. -/
inductive Tells (earlier : List Call) : Option Failure → List Call → Prop
  | silent : Tells earlier none earlier
  | passed {later : List Call} {call : Call} (harmless : call.failure? = none)
      (before : Tells earlier none later) : Tells earlier none (call :: later)
  | failed {later : List Call} {call : Call} {failure : Failure}
      (fatal : call.failure? = some failure) (before : Tells earlier none later) :
      Tells earlier (some failure) (call :: later)

namespace Tells

variable {earlier middle later : List Call} {failure : Option Failure}

theorem trans (first : Tells earlier none middle) (second : Tells middle failure later) :
    Tells earlier failure later := by
  induction second with
  | silent => exact first
  | passed harmless _ ih => exact .passed harmless ih
  | failed fatal _ ih => exact .failed fatal ih

theorem call (before : Tells earlier none later) (made : Call) :
    Tells earlier made.failure? (made :: later) := by
  cases told : made.failure? with
  | none => exact .passed told before
  | some failure => exact .failed told before

theorem harmless (new : List Call) (harmless : ∀ call ∈ new, call.failure? = none) :
    Tells earlier none (new ++ earlier) := by
  induction new with
  | nil => exact .silent
  | cons call rest ih =>
      exact .passed (harmless call List.mem_cons_self)
        (ih fun other member => harmless other (List.mem_cons_of_mem call member))

/-- Interrupted attempts are harmless, so the last attempt tells how it went. -/
theorem attempts {α : Type} (call : Except Errno α → Call) (result : Except Errno α)
    (interruptions : Nat) (repeated : (call (.error .interrupted)).failure? = none) :
    Tells earlier (call result).failure?
      (Handle.attempts call result interruptions ++ earlier) := by
  refine Tells.call (.harmless _ ?_) _
  intro other member
  rw [List.eq_of_mem_replicate member]
  exact repeated

theorem new_harmless (tells : Tells earlier failure later) (nothing : failure = none) :
    ∃ new, later = new ++ earlier ∧ ∀ call ∈ new, call.failure? = none := by
  induction tells with
  | silent => exact ⟨[], rfl, by simp⟩
  | @passed later call harmless before ih =>
      obtain ⟨new, appended, others⟩ := ih rfl
      exact ⟨call :: new, by rw [appended]; rfl, List.forall_mem_cons.mpr ⟨harmless, others⟩⟩
  | failed => cases nothing

/-- Among the new calls only the last can fail, and it does if there is a failure to tell. -/
theorem new_calls (tells : Tells earlier failure later) : ∃ new, later = new ++ earlier ∧
    (∀ call ∈ new.tail, call.failure? = none) ∧
    ∀ told, failure = some told ↔ ∃ call ∈ new, call.failure? = some told := by
  cases told : failure with
  | none =>
      obtain ⟨new, appended, harmless⟩ := tells.new_harmless told
      refine ⟨new, appended, fun call member => harmless call (List.mem_of_mem_tail member), ?_⟩
      simpa using fun failure call member => by simp [harmless call member]
  | some failure =>
      rw [told] at tells
      cases tells with
      | @failed before call _ fatal earlierCalls =>
          obtain ⟨new, appended, harmless⟩ := earlierCalls.new_harmless rfl
          refine ⟨call :: new, by rw [appended]; rfl, harmless, ?_⟩
          intro other
          constructor
          · intro same
            exact ⟨call, List.mem_cons_self, fatal.trans same⟩
          · rintro ⟨made, member, fails⟩
            rcases List.mem_cons.mp member with rfl | inside
            · exact fatal.symm.trans fails
            · rw [harmless made inside] at fails
              cases fails

end Tells
end History

/-! ## Serving a client -/

def Failure.ofTunnel {α : Type} : Except Errno α → Option Failure
  | .ok _ => none
  | .error errno => some (.tunnelIo errno)

namespace Tunnel

theorem write_failure (packet : Bytes) {result : Except Errno Nat}
    (final : result ≠ .error .interrupted) :
    (Call.write .tunnel packet result).failure? = Failure.ofTunnel (verdict packet result) := by
  cases result with
  | ok taken =>
      by_cases whole : taken = packet.length <;>
        simp [Call.failure?, verdict, whole, Failure.ofTunnel]
  | error errno =>
      have other : errno ≠ .interrupted := by simpa using final
      by_cases busy : errno = .again
      · simp [Call.failure?, verdict, busy, Failure.ofTunnel]
      · by_cases rejected : errno = .invalid <;>
          simp [Call.failure?, verdict, other, busy, rejected, Failure.ofTunnel]

theorem read_failure (size : Nat) {result : Except Errno Bytes}
    (final : result ≠ .error .interrupted) :
    (Call.read .tunnel size result).failure? = Failure.ofTunnel (gain result) := by
  cases result with
  | ok bytes => cases bytes <;> rfl
  | error errno =>
      have other : errno ≠ .interrupted := by simpa using final
      by_cases busy : errno = .again <;> simp [Call.failure?, gain, other, busy, Failure.ofTunnel]

end Tunnel

namespace Circuit

open History (Tells)

theorem forwardPacket_tells (name : String) (packet : Bytes) (circuit : Circuit) :
    Tells circuit.record.calls (Failure.ofTunnel (circuit.forwardPacket name packet).1)
      (circuit.forwardPacket name packet).2.record.calls := by
  obtain ⟨last, interruptions, final, result, _, _, calls, _⟩ :=
    forwardPacket_spec name packet circuit
  have told : Tells circuit.record.calls _ _ :=
    .attempts (Call.write .tunnel packet) (Endpoint.write packet last).1 interruptions rfl
  rw [Tunnel.write_failure packet final] at told
  rw [calls, result]
  cases judged : Tunnel.verdict packet (Endpoint.write packet last).1 with
  | ok delivery => simpa [judged, Except.map, Failure.ofTunnel] using told
  | error errno => simpa [judged, Except.map, Failure.ofTunnel] using told

theorem forward_tells (name : String) (input : Bytes) (circuit : Circuit) :
    Tells circuit.record.calls (Failure.ofTunnel (circuit.forward name input).1)
      (circuit.forward name input).2.record.calls := by
  fun_induction forward name input circuit with
  | case1 circuit => exact .silent
  | case2 => exact .silent
  | case3 input circuit someInput decoder rest decoded ih => exact ih
  | case4 input circuit someInput packet decoder rest decoded errno after failed =>
      have told := forwardPacket_tells name packet
        (circuit.update fun session => { session with decoder })
      rw [failed] at told
      exact told
  | case5 input circuit someInput packet decoder rest decoded after passed ih =>
      have told := forwardPacket_tells name packet
        (circuit.update fun session => { session with decoder })
      rw [passed] at told
      exact told.trans ih

theorem serve_tells (name : String) (size budget : Nat) (circuit : Circuit) :
    Tells circuit.record.calls (Failure.ofTunnel (circuit.serve name size budget).1)
      (circuit.serve name size budget).2.record.calls := by
  induction budget generalizing circuit with
  | zero => exact .silent
  | succ budget ih =>
      obtain ⟨interruptions, calls, _⟩ := readStream_calls size circuit.toLine
      -- No result of a read from a client is a failure.
      have read : Tells circuit.record.calls none
          (circuit.toLine.handle.readStream size).2.record.calls := by
        rw [calls]
        exact .attempts (Call.read (.client circuit.session.label) size) _ interruptions rfl
      unfold serve
      split
      · next handle made =>
          rw [made] at read
          exact read
      · next bytes handle someBytes made =>
          rw [made] at read
          have forwarded := forward_tells name bytes (circuit.overStream handle)
          split
          · next errno after failed =>
              rw [failed] at forwarded
              exact read.trans forwarded
          · next violation after broken =>
              rw [broken] at forwarded
              exact read.trans forwarded
          · next after passed =>
              rw [passed] at forwarded
              exact (read.trans forwarded).trans (ih after)
      · next errno handle made =>
          rw [made] at read
          split
          · exact read
          · exact read

theorem read_tells (name : String) (size budget : Nat) (circuit : Circuit) :
    Tells circuit.record.calls (Failure.ofTunnel (circuit.read name size budget).1)
      (circuit.read name size budget).2.record.calls := by
  unfold read
  split
  · exact serve_tells name size budget circuit
  · exact .silent

end Circuit

/-! ## Turns and failures -/

open History (Tells)

theorem Kernel.poll_record (timeout : Nat) (watched : List (Kernel.Descriptor × Flags))
    (kernel : Kernel) :
    (kernel.poll timeout watched).2.record =
      kernel.record.call (.poll timeout watched (kernel.poll timeout watched).1) := by
  obtain ⟨_, _, _, reported⟩ := Kernel.reports_frame watched kernel
  unfold poll
  dsimp only
  split <;> simp only [reported, Kernel.call]

theorem Channel.accepting_harmless {label : Nat} {call : Call}
    (accepting : Channel.Accepting label call) : call.failure? = none := by
  cases accepting <;> rfl

namespace Site

variable {site : Site}

theorem receive_tells {received : Except Errno (Option Bytes)} {handle : Handle}
    (made : Tunnel.receive Tunnel.maxPacketSize site.kernel.tunnelHandle = (received, handle)) :
    Tells site.calls (Failure.ofTunnel received) (site.overTunnel handle).calls := by
  obtain ⟨result, interruptions, final, rfl, record⟩ := Tunnel.receive_record made
  rw [← Tunnel.read_failure Tunnel.maxPacketSize final,
    show (site.overTunnel handle).calls = _ from congrArg Record.calls record]
  exact .attempts (Call.read .tunnel Tunnel.maxPacketSize) result interruptions rfl

theorem accept_tells {result : Except Errno (Option Nat)} {kernel : Kernel}
    (made : site.relay.channel.accept site.kernel = (result, kernel)) :
    Tells site.calls none kernel.record.calls := by
  obtain ⟨_, _, new, taking, _, always⟩ :=
    Channel.accept_spec site.relay.channel site.kernel.knocks site.kernel.faults.resize
  rw [always site.kernel rfl rfl] at made
  obtain ⟨_, rfl⟩ := Prod.mk.inj made
  obtain ⟨_, accepting⟩ := taking.accepting
  exact .harmless new.calls fun call member => Channel.accepting_harmless (accepting call member)

theorem sends_tells {session : Session} {line : Line}
    (sends : Line.Sends (site.kernel.line session) line) :
    Tells site.calls none (site.overLine line).calls := by
  obtain ⟨new, appended, writes⟩ := sends.only
  rw [show (site.overLine line).calls = new ++ site.calls from appended]
  refine .harmless new fun call member => ?_
  obtain ⟨bytes, result, rfl⟩ := writes call member
  rfl

theorem poll_tells {timeout : Nat} {watched : List (Kernel.Descriptor × Flags)}
    {result : Except Errno (List Flags)} {kernel : Kernel}
    (made : site.kernel.poll timeout watched = (result, kernel)) :
    Tells site.calls (Call.poll timeout watched result).failure? kernel.record.calls := by
  have recorded := Kernel.poll_record timeout watched site.kernel
  rw [made] at recorded
  rw [show kernel.record.calls = _ from congrArg Record.calls recorded]
  exact Tells.silent.call _

end Site

theorem Turn.tells (stage next : Stage) (turn : Turn stage next) :
    Tells stage.site.calls none next.site.calls := by
  cases turn with
  | noted | hungUp | marked => exact .silent
  | polled site harmless =>
      cases made : site.kernel.poll site.relay.pollTimeout ((Site.watched site.relay).map (·.2))
      rename_i result kernel
      rw [made] at harmless
      have told := Site.poll_tells made
      -- A poll whose error ended the pass is no turn, so this one was at most interrupted.
      cases result with
      | ok reports => exact told
      | error errno =>
          obtain rfl := harmless errno rfl
          exact told
  | idle received => exact Site.receive_tells received
  | took received => exact Site.receive_tells received
  | dropped received => exact Site.receive_tells received
  | offered _ sent => exact Site.sends_tells (.of_send sent)
  | flushed _ flush => exact Site.sends_tells (.of_flush flush)
  | broke _ flush => exact Site.sends_tells (.of_flush flush)
  | @read site session name disposition circuit found served =>
      have told := Circuit.read_tells name Tunnel.maxPacketSize site.relay.readBudget
        (site.kernel.circuit session)
      rw [served] at told
      exact told
  | left | dismissed => exact .passed rfl .silent
  | accepted taken =>
      have told := Site.accept_tells taken
      exact told
  | refused taken => exact Site.accept_tells taken
  | closedTunnel site =>
      unfold Site.closeTunnel
      split
      · exact .silent
      · exact .passed rfl .silent
  | closedChannel site =>
      cases isOpen : site.relay.channel.isOpen with
      | false =>
          unfold Site.closeChannel
          rw [Channel.close_closed site.kernel isOpen]
          exact .silent
      | true =>
          obtain ⟨failure, calls⟩ := Channel.close_calls site.kernel isOpen
          change Tells site.calls none (site.relay.channel.close site.kernel).2.record.calls
          rw [calls]
          exact .passed rfl (.passed rfl .silent)

theorem Fatal.tells (site : Site) (failure : Failure) (after : Site)
    (fatal : Fatal site failure after) : Tells site.calls (some failure) after.calls := by
  cases fatal with
  | poll failed serious =>
      have told := Site.poll_tells failed
      rwa [Call.failure?, if_neg serious] at told
  | receive failed => exact Site.receive_tells failed
  | @transmit session name errno circuit found failed =>
      have told := Circuit.read_tells name Tunnel.maxPacketSize site.relay.readBudget
        (site.kernel.circuit session)
      rw [failed] at told
      exact told

def Failure.of : Except Failure Unit → Option Failure
  | .ok () => none
  | .error failure => some failure

theorem Failure.of_eq_some {result : Except Failure Unit} {failure : Failure} :
    Failure.of result = some failure ↔ result = .error failure := by
  cases result <;> simp [Failure.of]

theorem Path.tells {stage last : Stage} {result : Except Failure Unit}
    (path : Path stage result last) :
    Tells stage.site.calls (Failure.of result) last.site.calls := by
  induction path with
  | done => exact .silent
  | turn step _ ih => exact (step.tells _ _).trans ih
  | failed fatal => exact fatal.tells _ _ _

/-! ## Errors that do not count -/

/-- The endpoint has no errors in store but those that are passed over at a tunnel. -/
structure Kernel.Endpoint.Benign (endpoint : Endpoint) : Prop where
  reads : ∀ errno, .failure errno ∈ endpoint.inbound → errno = .interrupted ∨ errno = .again
  writes : ∀ errno, .failure errno ∈ endpoint.outbound →
    errno = .interrupted ∨ errno = .again ∨ errno = .invalid

/-- The poll is at most interrupted, and the tunnel has no error in store that counts.
Clients, connections, the channel and the files may be in any state. -/
structure Kernel.Benign (kernel : Kernel) : Prop where
  poll : ∀ errno ∈ kernel.pollFaults.head?, errno = .interrupted
  tunnel : kernel.tunnel.Benign

namespace Kernel.Endpoint.Benign

variable {endpoint : Endpoint}

theorem readPacket (benign : endpoint.Benign) (size : Nat) :
    (endpoint.readPacket size).2.Benign := by
  obtain ⟨inbound, outbound, room, forced⟩ := endpoint
  unfold Endpoint.readPacket
  split
  · exact benign
  · cases inbound with
    | nil => exact benign
    | cons arrival later =>
        have left : ∀ errno, .failure errno ∈ later → errno = .interrupted ∨ errno = .again :=
          fun errno member => benign.reads errno (List.mem_cons_of_mem _ member)
        cases arrival <;> exact ⟨left, benign.writes⟩

theorem readPacket_error (benign : endpoint.Benign) {size : Nat} {errno : Errno}
    (failed : (endpoint.readPacket size).1 = .error errno) :
    errno = .interrupted ∨ errno = .again := by
  obtain ⟨inbound, outbound, room, forced⟩ := endpoint
  unfold Endpoint.readPacket at failed
  split at failed
  · cases failed
  · cases inbound with
    | nil =>
        cases failed
        exact .inr rfl
    | cons arrival later =>
        cases arrival with
        | failure errno =>
            cases failed
            exact benign.reads errno List.mem_cons_self
        | data | ended => cases failed

theorem write (benign : endpoint.Benign) (bytes : Bytes) : (endpoint.write bytes).2.Benign := by
  obtain ⟨inbound, outbound, room, forced⟩ := endpoint
  cases outbound with
  | nil =>
      unfold Endpoint.write
      rcases room with _ | _ | left <;> exact ⟨benign.reads, by rintro errno ⟨⟩⟩
  | cons intake later =>
      have left : ∀ errno, .failure errno ∈ later →
          errno = .interrupted ∨ errno = .again ∨ errno = .invalid :=
        fun errno member => benign.writes errno (List.mem_cons_of_mem _ member)
      cases intake <;> exact ⟨benign.reads, left⟩

theorem write_error (benign : endpoint.Benign) {bytes : Bytes} {errno : Errno}
    (failed : (endpoint.write bytes).1 = .error errno) :
    errno = .interrupted ∨ errno = .again ∨ errno = .invalid := by
  obtain ⟨inbound, outbound, room, forced⟩ := endpoint
  cases outbound with
  | nil =>
      unfold Endpoint.write at failed
      rcases room with _ | _ | left
      · cases failed
      · cases failed
        exact .inr (.inl rfl)
      · cases failed
  | cons intake later =>
      cases intake with
      | failure errno =>
          cases failed
          exact benign.writes errno List.mem_cons_self
      | upTo | everything => cases failed

theorem report (benign : endpoint.Benign) (requested : Flags) :
    (endpoint.report requested).2.Benign := by
  unfold Endpoint.report
  split
  · exact ⟨benign.reads, benign.writes⟩
  · exact benign

end Kernel.Endpoint.Benign

namespace Tunnel

theorem receive_benign {handle after : Handle} (benign : handle.endpoint.Benign) {size : Nat}
    {received : Except Errno (Option Bytes)} (made : receive size handle = (received, after)) :
    received.isOk = true ∧ after.endpoint.Benign := by
  obtain ⟨last, start, final, result, left⟩ := (Handle.readPacket_retries size).settles
    (fun _ benign => benign.readPacket size) handle benign
  rw [receive_eq, result] at made
  cases made
  rw [left]
  refine ⟨?_, start.readPacket size⟩
  cases outcome : (last.readPacket size).1 with
  | ok packet => cases packet <;> rfl
  | error errno =>
      rcases start.readPacket_error outcome with rfl | rfl
      · exact absurd outcome final
      · rfl

theorem transmit_benign (name : String) (packet : Bytes) (handle : Handle)
    (benign : handle.endpoint.Benign) :
    (transmit name packet handle).1.isOk = true ∧
      (transmit name packet handle).2.endpoint.Benign := by
  obtain ⟨last, start, final, result, left⟩ := (Handle.write_retries packet).settles
    (fun _ benign => benign.write packet) handle benign
  rw [transmit_eq, result]
  refine ⟨?_, ?_⟩
  · cases outcome : (last.write packet).1 with
    | ok taken =>
        unfold verdict
        dsimp only
        split <;> rfl
    | error errno =>
        rcases start.write_error outcome with rfl | rfl | rfl
        · exact absurd outcome final
        · rfl
        · rfl
  · change (handle.write packet).2.endpoint.Benign
    rw [left]
    exact start.write packet

end Tunnel

namespace Circuit

theorem forwardPacket_benign (name : String) (packet : Bytes) (circuit : Circuit)
    (benign : circuit.tunnel.Benign) :
    (circuit.forwardPacket name packet).1.isOk = true ∧
      (circuit.forwardPacket name packet).2.tunnel.Benign := by
  have wrote := Tunnel.transmit_benign name packet circuit.countReceived.tunnelHandle benign
  unfold forwardPacket
  split
  · next handle made =>
      rw [made] at wrote
      exact ⟨rfl, wrote.2⟩
  · next handle made =>
      rw [made] at wrote
      exact ⟨rfl, wrote.2⟩
  · next errno handle made =>
      rw [made] at wrote
      cases wrote.1

theorem forward_benign (name : String) (input : Bytes) (circuit : Circuit)
    (benign : circuit.tunnel.Benign) :
    (circuit.forward name input).1.isOk = true ∧ (circuit.forward name input).2.tunnel.Benign := by
  fun_induction forward name input circuit with
  | case1 circuit => exact ⟨rfl, benign⟩
  | case2 => exact ⟨rfl, benign⟩
  | case3 input circuit someInput decoder rest decoded ih => exact ih benign
  | case4 input circuit someInput packet decoder rest decoded errno after failed =>
      have forwarded := forwardPacket_benign name packet
        (circuit.update fun session => { session with decoder }) benign
      rw [failed] at forwarded
      cases forwarded.1
  | case5 input circuit someInput packet decoder rest decoded after passed ih =>
      have forwarded := forwardPacket_benign name packet
        (circuit.update fun session => { session with decoder }) benign
      rw [passed] at forwarded
      exact ih forwarded.2

theorem serve_benign (name : String) (size budget : Nat) (circuit : Circuit)
    (benign : circuit.tunnel.Benign) :
    (circuit.serve name size budget).1.isOk = true ∧
      (circuit.serve name size budget).2.tunnel.Benign := by
  induction budget generalizing circuit with
  | zero => exact ⟨rfl, benign⟩
  | succ budget ih =>
      unfold serve
      split
      · exact ⟨rfl, benign⟩
      · next bytes handle someBytes made =>
          have forwarded := forward_benign name bytes (circuit.overStream handle) benign
          split
          · next errno after failed =>
              rw [failed] at forwarded
              cases forwarded.1
          · next violation after broken =>
              rw [broken] at forwarded
              exact ⟨rfl, forwarded.2⟩
          · next after passed =>
              rw [passed] at forwarded
              exact ih after forwarded.2
      · split <;> exact ⟨rfl, benign⟩

theorem read_benign (name : String) (size budget : Nat) (circuit : Circuit)
    (benign : circuit.tunnel.Benign) :
    (circuit.read name size budget).1.isOk = true ∧
      (circuit.read name size budget).2.tunnel.Benign := by
  unfold read
  split
  · exact serve_benign name size budget circuit benign
  · exact ⟨rfl, benign⟩

end Circuit

theorem Kernel.reportOn_benign {kernel : Kernel} (benign : kernel.tunnel.Benign)
    (descriptor : Kernel.Descriptor) (requested : Flags) :
    (kernel.reportOn descriptor requested).2.tunnel.Benign := by
  unfold reportOn
  split
  · exact benign.report requested
  · split <;> exact benign
  · exact benign

theorem Kernel.poll_benign {kernel : Kernel} (benign : kernel.tunnel.Benign) (timeout : Nat)
    (watched : List (Kernel.Descriptor × Flags)) :
    (kernel.poll timeout watched).2.tunnel.Benign := by
  have reported : (kernel.reports watched).2.tunnel.Benign := by
    induction watched generalizing kernel with
    | nil => exact benign
    | cons entry rest ih => exact ih (Kernel.reportOn_benign benign entry.1 entry.2)
  unfold poll
  dsimp only
  split <;> exact reported

theorem Kernel.poll_error {timeout : Nat} {watched : List (Kernel.Descriptor × Flags)}
    {kernel after : Kernel} {errno : Errno}
    (failed : kernel.poll timeout watched = (.error errno, after)) :
    errno ∈ kernel.pollFaults.head? := by
  obtain ⟨_, _, _, reported⟩ := Kernel.reports_frame watched kernel
  have same : (kernel.reports watched).2.pollFaults = kernel.pollFaults := by rw [reported]
  unfold poll at failed
  dsimp only at failed
  split at failed
  · cases failed
  · next first later faults =>
      cases failed
      rw [← same, faults]
      rfl

theorem Turn.benign (stage next : Stage) (turn : Turn stage next)
    (benign : stage.site.kernel.tunnel.Benign) : next.site.kernel.tunnel.Benign := by
  cases turn with
  | noted | offered | flushed | broke | hungUp | left | dismissed | marked => exact benign
  | polled site => exact Kernel.poll_benign benign _ _
  | idle received => exact (Tunnel.receive_benign benign received).2
  | took received => exact (Tunnel.receive_benign benign received).2
  | dropped received => exact (Tunnel.receive_benign benign received).2
  | @read site session name disposition circuit found served =>
      have kept := Circuit.read_benign name Tunnel.maxPacketSize site.relay.readBudget
        (site.kernel.circuit session) benign
      rw [served] at kept
      exact kept.2
  | @accepted site label kernel taken =>
      obtain ⟨_, _, _, _, _, always⟩ :=
        Channel.accept_spec site.relay.channel site.kernel.knocks site.kernel.faults.resize
      rw [always site.kernel rfl rfl] at taken
      cases taken
      exact benign
  | @refused site kernel result taken =>
      obtain ⟨_, _, _, _, _, always⟩ :=
        Channel.accept_spec site.relay.channel site.kernel.knocks site.kernel.faults.resize
      rw [always site.kernel rfl rfl] at taken
      cases taken
      exact benign
  | closedTunnel site =>
      unfold Site.closeTunnel
      split <;> exact benign
  | closedChannel site =>
      obtain ⟨_, _, _, _, _, made⟩ := site.closeChannel_spec
      rw [made]
      exact benign

theorem Fatal.of_benign (site : Site) (failure : Failure) (after : Site)
    (fatal : Fatal site failure after) (benign : site.kernel.tunnel.Benign) :
    ∃ errno, failure = .poll errno := by
  cases fatal with
  | poll failed serious => exact ⟨_, rfl⟩
  | receive failed => cases (Tunnel.receive_benign benign failed).1
  | @transmit session name errno circuit found failed =>
      have passes := (Circuit.read_benign name Tunnel.maxPacketSize site.relay.readBudget
        (site.kernel.circuit session) benign).1
      rw [failed] at passes
      cases passes

theorem Path.of_benign {stage last : Stage} {failure : Failure}
    (path : Path stage (.error failure) last) (benign : stage.site.kernel.tunnel.Benign) :
    ∃ errno, failure = .poll errno := by
  generalize ended : Except.error failure = result at path
  induction path with
  | done => cases ended
  | turn step _ ih => exact ih (step.benign _ _ benign) ended
  | failed fatal =>
      cases ended
      exact fatal.of_benign _ _ _ benign

namespace Site

variable {site after : Site} {failure : Failure}

theorem readTunnel_failure (failed : site.readTunnel.1 = .error failure) :
    ∃ errno, failure = .tunnelIo errno := by
  fun_induction readTunnel site with
  | case1 => cases failed
  | case2 =>
      cases failed
      exact ⟨_, rfl⟩
  | case3 => cases failed
  | case4 => cases failed
  | case5 site name present packet handle received after drain ih => exact ih failed

theorem readClient_failure {session : Session} {flags : Flags}
    (failed : (site.readClient session flags).1 = .error failure) :
    ∃ errno, failure = .tunnelIo errno := by
  unfold readClient at failed
  split at failed
  · split at failed
    · cases failed
    · split at failed <;> cases failed
      exact ⟨_, rfl⟩
  · split at failed <;> cases failed

theorem serveClient_failure {id : Nat} {flags : Flags}
    (failed : (site.serveClient id flags).1 = .error failure) :
    ∃ errno, failure = .tunnelIo errno := by
  unfold serveClient at failed
  split at failed
  · cases failed
  · split at failed
    · split at failed
      · cases failed
      · exact readClient_failure failed
    · exact readClient_failure failed

/-- Once the poll is over, only the tunnel can fail. -/
theorem serveAll_failure {sources : List (Source × Flags)}
    (failed : (site.serveAll sources).1 = .error failure) :
    ∃ errno, failure = .tunnelIo errno := by
  induction sources generalizing site with
  | nil => cases failed
  | cons source rest ih =>
      obtain ⟨source, flags⟩ := source
      have served : (site.serve source flags).1 = .error failure →
          ∃ errno, failure = .tunnelIo errno := by
        cases source with
        | tunnel => exact readTunnel_failure
        | channel => rintro ⟨⟩
        | client id => exact serveClient_failure
      unfold serveAll at failed
      split at failed
      · next made =>
          rw [made] at served
          exact served failed
      · exact ih failed

theorem ready_benign (benign : site.kernel.Benign) :
    site.ready.1.isOk = true ∧ site.ready.2.kernel.tunnel.Benign := by
  have tunnel := Kernel.poll_benign benign.tunnel site.relay.pollTimeout
    ((watched site.relay).map (·.2))
  unfold ready
  dsimp only
  split
  · next reports kernel made =>
      rw [made] at tunnel
      exact ⟨rfl, tunnel⟩
  · next errno kernel made =>
      rw [made] at tunnel
      obtain rfl := benign.poll errno (Kernel.poll_error made)
      exact ⟨rfl, tunnel⟩

/-- While the kernel has nothing in store for the poll and the tunnel but what is passed
over there, a pass succeeds, whatever the clients and the connections do. -/
theorem pass_benign (ordered : site.relay.roster.Ordered) (benign : site.kernel.Benign) :
    site.pass.1 = .ok () := by
  have polls := ready_benign benign
  have path := ready_path site
  unfold pass
  split
  · next failure after failed =>
      rw [failed] at polls
      cases polls.1
  · next sources after polled =>
      rw [polled] at polls path
      have serving := serveAll_path sources after (path.ordered ordered)
      cases outcome : (after.serveAll sources).1 with
      | ok => rfl
      | error failure =>
          rw [outcome] at serving
          obtain ⟨errno, rfl⟩ := serving.of_benign polls.2
          obtain ⟨other, same⟩ := serveAll_failure outcome
          cases same

/-- A pass fails if and only if its poll fails with anything but an interruption, a read from
the tunnel with anything but an interruption or "try again", or a write to the tunnel with
anything but these two and "invalid". It fails with what that call came to, and the call is its
last. So nothing that the clients and the connections do makes a pass fail. -/
theorem fails_exactly (site : Site) (reachable : site.Reachable) :
    (∃ new, site.pass.2.calls = new ++ site.calls ∧
      (∀ failure, site.pass.1 = .error failure ↔ ∃ call ∈ new, call.failure? = some failure) ∧
      ∀ call ∈ new.tail, call.failure? = none) ∧
    (site.kernel.Benign → site.pass.1 = .ok ()) := by
  have ordered := reachable.sound.ordered
  obtain ⟨new, appended, harmless, last⟩ := (pass_path site ordered).tells.new_calls
  refine ⟨⟨new, appended, fun failure => ?_, harmless⟩, pass_benign ordered⟩
  rw [← last, Failure.of_eq_some]

/-- A rejected packet, a client that breaks when it is read and one that breaks when it is
written to do not make a pass fail; another error of the tunnel does. -/
theorem fails_by_tunnel :
    let site := (fresh {}).play [.world (.connect 2 none), .pass,
      .world (.supplyTunnel { inbound := [.data [9]], outbound := [.failure .invalid] }),
      .world (.supplyClient 1
        { inbound := [.data [0, 0, 0, 1, 7, 0, 0, 0, 1, 8], .failure ⟨104⟩] }),
      .world (.supplyClient 2 { outbound := [.failure ⟨32⟩] })]
    let worse := site.play [.world (.supplyTunnel { outbound := [.failure ⟨5⟩] })]
    site.Reachable ∧ (site.kernel.Benign ∧ site.pass.1 = .ok ()) ∧
      worse.pass.1 = .error (.tunnelIo ⟨5⟩) ∧
      ∃ call ∈ worse.pass.2.calls, call.failure? = some (.tunnelIo ⟨5⟩) := by
  have reachable : ∀ moves, ((fresh {}).play moves).Reachable :=
    fun moves => .play (.opened (fresh_opened _)) moves
  have passes (site : Site) (reached : site.Reachable) (faults : site.kernel.pollFaults = [])
      (inbound : site.kernel.tunnel.inbound = [.data [9]])
      (outbound : site.kernel.tunnel.outbound = [.failure .invalid]) :
      site.kernel.Benign ∧ site.pass.1 = .ok () := by
    have benign : site.kernel.Benign := ⟨by simp [faults], by simp [inbound], by simp [outbound]⟩
    exact ⟨benign, (fails_exactly site reached).2 benign⟩
  have fails (site : Site) (reached : site.Reachable)
      (failed : site.pass.1 = .error (.tunnelIo ⟨5⟩)) :
      site.pass.1 = .error (.tunnelIo ⟨5⟩) ∧
        ∃ call ∈ site.pass.2.calls, call.failure? = some (.tunnelIo ⟨5⟩) := by
    obtain ⟨new, appended, told, _⟩ := (fails_exactly site reached).1
    obtain ⟨call, member, fatal⟩ := (told _).mp failed
    exact ⟨failed, call, by rw [appended]; exact List.mem_append_left _ member, fatal⟩
  exact ⟨reachable _, passes _ (reachable _) (by decide +kernel) (by decide +kernel)
    (by decide +kernel), fails _ (.play (reachable _) _)
      (Failure.of_eq_some.mp (by decide +kernel))⟩

end Site
end PacketRelay
