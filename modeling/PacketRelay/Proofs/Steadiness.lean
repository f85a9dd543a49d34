import PacketRelay.Proofs.Interruptions
import PacketRelay.Proofs.Lockstep

/-!
Serving one client in spite of interruptions. Lines and circuits that differ
only in interruptions come to the same; flushing to a stream that takes nothing
and reading from one on which nothing arrives come to nothing.
-/

namespace PacketRelay

open Kernel (Call Endpoint Handle)

/-! ## Lines -/

structure Line.Matches (one two : Line) : Prop where
  session : one.session = two.session
  stream : one.stream.calm = two.stream.calm
  record : one.record.effects = two.record.effects

namespace Line

variable {one two three line : Line}

namespace Matches

theorem refl (line : Line) : Matches line line := ⟨rfl, rfl, rfl⟩

theorem handle (same : Matches one two) : one.handle.Matches two.handle where
  descriptor := by rw [Line.handle, Line.handle, same.session]
  endpoint := same.stream
  record := same.record

theorem withHandle (same : Matches one two) {left right : Handle} (handles : left.Matches right) :
    Matches (one.withHandle left) (two.withHandle right) :=
  ⟨same.session, handles.endpoint, handles.record⟩

theorem update (same : Matches one two) (change : Session → Session) :
    Matches (one.update change) (two.update change) :=
  ⟨congrArg change same.session, same.stream, same.record⟩

theorem disconnect (same : Matches one two) : Matches one.disconnect two.disconnect :=
  same.update _

theorem note (same : Matches one two) (notice other : Log.Notice) :
    Matches (one.note notice) (two.note other) :=
  ⟨same.session, same.stream, same.record⟩

end Matches

theorem write_concurs (same : Matches one two) (bytes : Bytes) :
    Concur (fun left right => Matches (one.withHandle left) (two.withHandle right))
      (one.handle.write bytes) (two.handle.write bytes) :=
  have wrote := (Handle.write_retries bytes).concurs same.handle
  ⟨wrote.result, same.withHandle wrote.after⟩

theorem drainPending_concurs (same : Matches one two) :
    Concur Matches one.drainPending two.drainPending := by
  have pending := congrArg Session.pending same.session
  fun_induction drainPending one generalizing two with
  | case1 one noneLeft =>
      rw [drainPending, dif_pos (pending ▸ noneLeft)]
      exact ⟨rfl, same⟩
  | case2 one someLeft handle made =>
      obtain ⟨other, alsoMade, after⟩ := (write_concurs same one.session.pending).follow made
      rw [drainPending, dif_neg (pending ▸ someLeft), ← pending, alsoMade]
      exact ⟨rfl, after⟩
  | case3 one someLeft count handle made shorter =>
      rename_i ih
      obtain ⟨other, alsoMade, after⟩ := (write_concurs same one.session.pending).follow made
      rw [drainPending.eq_1 two, dif_neg (pending ▸ someLeft), ← pending, alsoMade]
      have cut := after.update fun session =>
        { session with pending := session.pending.drop (count + 1) }
      exact ih cut (congrArg Session.pending cut.session)
  | case4 one someLeft handle made =>
      obtain ⟨other, alsoMade, after⟩ := (write_concurs same one.session.pending).follow made
      rw [drainPending, dif_neg (pending ▸ someLeft), ← pending, alsoMade]
      exact ⟨rfl, after⟩
  | case5 one someLeft errno handle made fatal =>
      obtain ⟨other, alsoMade, after⟩ := (write_concurs same one.session.pending).follow made
      rw [drainPending, dif_neg (pending ▸ someLeft), ← pending, alsoMade]
      simp only [if_neg fatal]
      exact ⟨rfl, after.disconnect⟩

theorem flush_concurs (same : Matches one two) : Concur Matches one.flush two.flush := by
  have drained := drainPending_concurs same
  unfold flush
  rw [← same.session]
  split
  · next errno after made =>
      obtain ⟨other, alsoMade, matching⟩ := drained.follow made
      rw [alsoMade]
      exact ⟨rfl, matching⟩
  · next after made =>
      obtain ⟨other, alsoMade, matching⟩ := drained.follow made
      simp only [alsoMade, ← matching.session]
      split
      · exact ⟨rfl, matching.note _ _⟩
      · exact ⟨rfl, matching⟩

theorem offer_concurs (same : Matches one two) (frame : Bytes) :
    Concur Matches (one.offer frame) (two.offer frame) := by
  have wrote := write_concurs same frame
  unfold offer
  split
  · next count handle made =>
      obtain ⟨other, alsoMade, after⟩ := wrote.follow made
      rw [alsoMade]
      dsimp only
      split
      · exact ⟨rfl, after.update _⟩
      · split
        · exact ⟨rfl, after.update _⟩
        · exact ⟨rfl, after.update fun session =>
            { session.countSent with pending := session.pending ++ frame.drop count }⟩
  · next errno handle made =>
      obtain ⟨other, alsoMade, after⟩ := wrote.follow made
      rw [alsoMade]
      dsimp only
      split
      · exact ⟨rfl, after.update _⟩
      · exact ⟨rfl, after.disconnect⟩

theorem send_concurs (same : Matches one two) (frame : Bytes) :
    Concur Matches (one.send frame) (two.send frame) := by
  have flushed := flush_concurs same
  unfold send
  simp only [← same.session]
  split
  · exact ⟨rfl, same⟩
  · split
    · exact offer_concurs same frame
    · split
      · next parting after made =>
          obtain ⟨other, alsoMade, matching⟩ := flushed.follow made
          rw [alsoMade]
          exact ⟨rfl, matching⟩
      · next after made =>
          obtain ⟨other, alsoMade, matching⟩ := flushed.follow made
          simp only [alsoMade, ← matching.session]
          split
          · exact ⟨rfl, matching.update _⟩
          · exact offer_concurs matching frame

/-! ### Streams that take nothing -/

theorem drainPending_blocked (blocked : line.stream.Blocked) :
    Concur Matches line.drainPending (.ok (), line) := by
  obtain ⟨outbound, room⟩ := (Endpoint.blocked_iff line.stream).mp blocked
  have nothing : Endpoint.write line.session.pending line.handle.endpoint.calm =
      (.error .again, line.handle.endpoint.calm) := by
    change Endpoint.write line.session.pending line.stream.calm = _
    simp only [Endpoint.write, outbound, room]
    rfl
  have idle := (Handle.write_retries line.session.pending).idles nothing rfl
  rw [drainPending]
  split
  · exact ⟨rfl, .refl line⟩
  · generalize line.handle.write line.session.pending = made at idle ⊢
    obtain ⟨result, handle⟩ := made
    obtain ⟨rfl, after⟩ := idle
    exact ⟨rfl, Matches.withHandle (.refl line) after⟩

theorem flush_blocked (blocked : line.stream.Blocked) :
    Concur Matches line.flush (.ok (), line) := by
  have drained := drainPending_blocked blocked
  unfold flush
  generalize line.drainPending = made at drained ⊢
  obtain ⟨result, after⟩ := made
  obtain ⟨rfl, matching⟩ := drained
  have same : after.session = line.session := matching.session
  simp only [same, Bool.and_not_self, Bool.false_eq_true, if_false]
  exact ⟨rfl, matching⟩

/-! ### What a stream keeps -/

section

variable {holds : Endpoint → Prop}
  (kept : ∀ bytes endpoint, holds endpoint → holds (Endpoint.write bytes endpoint).2)

include kept

theorem drainPending_keeps (line : Line) (start : holds line.stream) :
    holds line.drainPending.2.stream := by
  have wrote (line : Line) (start : holds line.stream) :
      holds (line.handle.write line.session.pending).2.endpoint :=
    (Handle.write_retries _).keeps (kept _) line.handle start
  fun_induction drainPending line with
  | case1 line noneLeft => exact start
  | case2 line someLeft handle made =>
      have after := wrote line start
      rw [made] at after
      exact after
  | case3 line someLeft count handle made shorter ih =>
      have after := wrote line start
      rw [made] at after
      exact ih after
  | case4 line someLeft handle made =>
      have after := wrote line start
      rw [made] at after
      exact after
  | case5 line someLeft errno handle made fatal =>
      have after := wrote line start
      rw [made] at after
      exact after

theorem flush_keeps (line : Line) (start : holds line.stream) : holds line.flush.2.stream := by
  have drained := drainPending_keeps kept line start
  rcases (flush_drained line).2 with same | noted
  · rw [same]
    exact drained
  · rw [noted]
    exact drained

theorem offer_keeps (frame : Bytes) (line : Line) (start : holds line.stream) :
    holds (line.offer frame).2.stream := by
  have wrote : holds (line.handle.write frame).2.endpoint :=
    (Handle.write_retries _).keeps (kept _) line.handle start
  unfold offer
  generalize line.handle.write frame = made at wrote ⊢
  obtain ⟨result, handle⟩ := made
  cases result with
  | ok count =>
      dsimp only
      split
      · exact wrote
      · split
        · exact wrote
        · exact wrote
  | error errno =>
      dsimp only
      split
      · exact wrote
      · exact wrote

theorem send_keeps (frame : Bytes) (line : Line) (start : holds line.stream) :
    holds (line.send frame).2.stream := by
  have flushed := flush_keeps kept line start
  unfold send
  split
  · exact start
  · split
    · exact offer_keeps kept frame line start
    · generalize line.flush = made at flushed ⊢
      obtain ⟨result, after⟩ := made
      cases result with
      | error parting => exact flushed
      | ok value =>
          dsimp only
          split
          · exact flushed
          · exact offer_keeps kept frame after flushed

end

end Line

/-! ## The tunnel -/

namespace Tunnel

variable {one two : Handle}

theorem transmit_concurs (name : String) (packet : Bytes) (same : one.Matches two) :
    Concur Handle.Matches (transmit name packet one) (transmit name packet two) := by
  obtain ⟨result, after⟩ := (Handle.write_retries packet).concurs same
  rw [transmit_eq, transmit_eq, ← result]
  exact ⟨rfl, after.descriptor, after.endpoint, Record.effects_onto after.record _⟩

theorem receive_concurs (size : Nat) (same : one.Matches two) :
    Concur Handle.Matches (receive size one) (receive size two) := by
  obtain ⟨result, after⟩ := (Handle.readPacket_retries size).concurs same
  rw [receive_eq, receive_eq, ← result]
  exact ⟨rfl, after⟩

theorem receive_silent {size : Nat} {handle : Handle} (sized : size ≠ 0)
    (silent : handle.endpoint.Silent) :
    Concur Handle.Matches (receive size handle) (.ok none, handle) := by
  have inbound := (Endpoint.silent_iff handle.endpoint).mp silent
  have nothing : Endpoint.readPacket size handle.endpoint.calm =
      (.error .again, handle.endpoint.calm) := by
    simp only [Endpoint.readPacket, if_neg sized, inbound]
  obtain ⟨result, after⟩ := (Handle.readPacket_retries size).idles nothing rfl
  rw [receive_eq, result]
  exact ⟨rfl, after⟩

end Tunnel

/-! ## Circuits -/

structure Circuit.Matches (one two : Circuit) : Prop where
  line : one.toLine.Matches two.toLine
  tunnel : one.tunnel.calm = two.tunnel.calm

namespace Circuit

variable {one two circuit : Circuit}

namespace Matches

theorem refl (circuit : Circuit) : Matches circuit circuit := ⟨.refl _, rfl⟩

theorem update (same : Matches one two) (change : Session → Session) :
    Matches (one.update change) (two.update change) :=
  ⟨same.line.update change, same.tunnel⟩

theorem part (same : Matches one two) (parting : Parting) :
    Concur Matches (one.part parting) (two.part parting) :=
  ⟨rfl, same.line.disconnect, same.tunnel⟩

theorem tunnelHandle (same : Matches one two) : one.tunnelHandle.Matches two.tunnelHandle :=
  ⟨rfl, same.tunnel, same.line.record⟩

theorem overTunnel (same : Matches one two) {left right : Handle} (handles : left.Matches right) :
    Matches (one.overTunnel left) (two.overTunnel right) :=
  ⟨⟨same.line.session, same.line.stream, handles.record⟩, handles.endpoint⟩

theorem overStream (same : Matches one two) {left right : Handle} (handles : left.Matches right) :
    Matches (one.overStream left) (two.overStream right) :=
  ⟨same.line.withHandle handles, same.tunnel⟩

end Matches

theorem forwardPacket_concurs (name : String) (packet : Bytes) (same : Matches one two) :
    Concur Matches (one.forwardPacket name packet) (two.forwardPacket name packet) := by
  have counted : Matches one.countReceived two.countReceived := same.update _
  have passed := Tunnel.transmit_concurs name packet counted.tunnelHandle
  unfold forwardPacket
  generalize Tunnel.transmit name packet one.countReceived.tunnelHandle = first at passed ⊢
  generalize Tunnel.transmit name packet two.countReceived.tunnelHandle = second at passed ⊢
  obtain ⟨result, handle⟩ := first
  obtain ⟨_, other⟩ := second
  obtain ⟨rfl, after⟩ := passed
  cases result with
  | error errno => exact ⟨rfl, counted.overTunnel after⟩
  | ok delivery =>
      cases delivery with
      | written => exact ⟨rfl, (counted.overTunnel after).update _⟩
      | dropped => exact ⟨rfl, counted.overTunnel after⟩

theorem forward_concurs (name : String) (input : Bytes) (same : Matches one two) :
    Concur Matches (one.forward name input) (two.forward name input) := by
  have unfolded := forward_unfolds name input two
  rw [← same.line.session] at unfolded
  fun_induction forward name input one generalizing two with
  | case1 one =>
      rw [unfolded]
      exact ⟨rfl, same⟩
  | case2 input one someInput violation decoder rest decoded =>
      rw [if_neg someInput, decoded] at unfolded
      rw [unfolded]
      exact ⟨rfl, same.update _⟩
  | case3 input one someInput decoder rest decoded ih =>
      rw [if_neg someInput, decoded] at unfolded
      rw [unfolded]
      have ready := same.update fun session => { session with decoder }
      exact ih ready (ready.line.session ▸ forward_unfolds name rest _)
  | case4 input one someInput packet decoder rest decoded errno after failed =>
      have passed := forwardPacket_concurs name packet
        (same.update fun session => { session with decoder })
      obtain ⟨other, alsoFailed, matching⟩ := passed.follow failed
      rw [if_neg someInput, decoded] at unfolded
      simp only [alsoFailed] at unfolded
      rw [unfolded]
      exact ⟨rfl, matching⟩
  | case5 input one someInput packet decoder rest decoded after forwarded ih =>
      have passed := forwardPacket_concurs name packet
        (same.update fun session => { session with decoder })
      obtain ⟨other, alsoForwarded, matching⟩ := passed.follow forwarded
      rw [if_neg someInput, decoded] at unfolded
      simp only [alsoForwarded] at unfolded
      rw [unfolded]
      exact ih matching (matching.line.session ▸ forward_unfolds name rest other)

theorem serve_concurs (name : String) (size budget : Nat) (same : Matches one two) :
    Concur Matches (one.serve name size budget) (two.serve name size budget) := by
  induction budget generalizing one two with
  | zero => exact ⟨rfl, same.line.note _ _, same.tunnel⟩
  | succ budget ih =>
      have read := (Handle.readStream_retries size).concurs same.line.handle
      unfold serve
      generalize one.toLine.handle.readStream size = first at read ⊢
      generalize two.toLine.handle.readStream size = second at read ⊢
      obtain ⟨result, handle⟩ := first
      obtain ⟨_, other⟩ := second
      -- The interruptions are in the retries of the read; behind it both go on alike.
      obtain ⟨rfl, handles⟩ := read
      have after := same.overStream handles
      cases result with
      | error errno =>
          dsimp only
          split
          · exact ⟨rfl, after⟩
          · exact after.part _
      | ok bytes =>
          cases bytes with
          | nil => exact after.part .peerClosed
          | cons byte rest =>
              have forwarded := forward_concurs name (byte :: rest) after
              dsimp only
              generalize (one.overStream handle).forward name (byte :: rest) = first
                at forwarded ⊢
              generalize (two.overStream other).forward name (byte :: rest) = second
                at forwarded ⊢
              obtain ⟨result, ended⟩ := first
              obtain ⟨_, alsoEnded⟩ := second
              obtain ⟨rfl, matching⟩ := forwarded
              cases result with
              | error errno => exact ⟨rfl, matching⟩
              | ok violation =>
                  cases violation with
                  | none => exact ih matching
                  | some violation => exact matching.part _

theorem read_concurs (name : String) (size budget : Nat) (same : Matches one two) :
    Concur Matches (one.read name size budget) (two.read name size budget) := by
  unfold read
  rw [← same.line.session]
  split
  · exact serve_concurs name size budget same
  · exact ⟨rfl, same⟩

/-- On a silent stream a read comes to nothing, whatever its budget. -/
theorem read_silent (name : String) {size : Nat} (budget : Nat) (sized : size ≠ 0)
    (silent : circuit.stream.Silent) :
    ∃ disposition, (∀ parting, disposition ≠ .closed parting) ∧
      Concur Matches (circuit.read name size budget) (.ok disposition, circuit) := by
  have inbound := (Endpoint.silent_iff circuit.stream).mp silent
  have nothing : Endpoint.readStream size circuit.toLine.handle.endpoint.calm =
      (.error .again, circuit.toLine.handle.endpoint.calm) := by
    change Endpoint.readStream size circuit.stream.calm = _
    simp only [Endpoint.readStream, if_neg sized, inbound]
    rfl
  have idle := (Handle.readStream_retries size).idles nothing rfl
  unfold read
  split
  · cases budget with
    | zero => exact ⟨.unfinished, by rintro parting ⟨⟩, rfl, ⟨rfl, rfl, rfl⟩, rfl⟩
    | succ budget =>
        refine ⟨.idle, by rintro parting ⟨⟩, ?_⟩
        unfold serve
        generalize circuit.toLine.handle.readStream size = made at idle ⊢
        obtain ⟨result, handle⟩ := made
        obtain ⟨rfl, after⟩ := idle
        exact ⟨rfl, Matches.overStream (.refl circuit) after⟩
  · exact ⟨.idle, by rintro parting ⟨⟩, rfl, .refl circuit⟩

/-! ### What the stream keeps -/

theorem forwardPacket_stream (name : String) (packet : Bytes) (circuit : Circuit) :
    (circuit.forwardPacket name packet).2.stream = circuit.stream := by
  obtain ⟨_, _, _, _, _, stream, _⟩ := forwardPacket_spec name packet circuit
  exact stream

theorem forward_stream (name : String) (input : Bytes) (circuit : Circuit) :
    (circuit.forward name input).2.stream = circuit.stream := by
  fun_induction forward name input circuit with
  | case1 circuit => rfl
  | case2 => rfl
  | case3 input circuit someInput decoder rest decoded ih => exact ih
  | case4 input circuit someInput packet decoder rest decoded errno after failed =>
      have same := forwardPacket_stream name packet
        (circuit.update fun session => { session with decoder })
      rw [failed] at same
      exact same
  | case5 input circuit someInput packet decoder rest decoded after passed ih =>
      have same := forwardPacket_stream name packet
        (circuit.update fun session => { session with decoder })
      rw [passed] at same
      exact ih.trans same

section

variable {holds : Endpoint → Prop}
  (kept : ∀ size endpoint, holds endpoint → holds (Endpoint.readStream size endpoint).2)

include kept

theorem serve_keeps (name : String) (size budget : Nat) (circuit : Circuit)
    (start : holds circuit.stream) : holds (circuit.serve name size budget).2.stream := by
  induction budget generalizing circuit with
  | zero => exact start
  | succ budget ih =>
      have read : holds (circuit.toLine.handle.readStream size).2.endpoint :=
        (Handle.readStream_retries size).keeps (kept size) circuit.toLine.handle start
      unfold serve
      generalize circuit.toLine.handle.readStream size = made at read ⊢
      obtain ⟨result, handle⟩ := made
      cases result with
      | error errno =>
          dsimp only
          split
          · exact read
          · exact read
      | ok bytes =>
          cases bytes with
          | nil => exact read
          | cons byte rest =>
              have forwarded : holds ((circuit.overStream handle).forward name
                  (byte :: rest)).2.stream := by
                rw [forward_stream]
                exact read
              dsimp only
              generalize (circuit.overStream handle).forward name (byte :: rest) = made
                at forwarded ⊢
              obtain ⟨result, after⟩ := made
              cases result with
              | error errno => exact forwarded
              | ok violation =>
                  cases violation with
                  | none => exact ih after forwarded
                  | some violation => exact forwarded

theorem read_keeps (name : String) (size budget : Nat) (circuit : Circuit)
    (start : holds circuit.stream) : holds (circuit.read name size budget).2.stream := by
  unfold read
  split
  · exact serve_keeps kept name size budget circuit start
  · exact start

end

end Circuit
end PacketRelay
