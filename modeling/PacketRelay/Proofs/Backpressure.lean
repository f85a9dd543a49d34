import PacketRelay.Proofs.Ledger

/-!
A stream that takes so many bytes more and then would block. Three lengths settle
what becomes of a frame: the room on the stream, the tail that is pending and the
frame itself. Main statement: the stream takes what there is room for, the tail
first, and where the room ends decides whether the frame is sent, split or dropped.
-/

namespace PacketRelay

open Kernel (Endpoint Handle)

namespace Kernel

namespace Endpoint

variable {endpoint : Endpoint} {room count taken : Nat} {errno : Errno}

/-- Writes of any size are taken as far as the room goes; without room they would block. -/
structure HasRoom (endpoint : Endpoint) (room : Nat) : Prop where
  unscripted : endpoint.outbound = []
  bounded : endpoint.room = some room

def withRoom (room : Nat) (endpoint : Endpoint) : Endpoint :=
  { endpoint with room := some room }

theorem HasRoom.withRoom (hasRoom : endpoint.HasRoom room) (left : Nat) :
    (endpoint.withRoom left).HasRoom left :=
  ⟨hasRoom.unscripted, rfl⟩

def fits (room count : Nat) : Except Errno Nat :=
  if room = 0 then .error .again else .ok (min room count)

theorem fits_ok (made : fits room count = .ok taken) : 0 < room ∧ taken = min room count := by
  unfold fits at made
  split at made
  · cases made
  · next someRoom =>
      cases made
      exact ⟨Nat.pos_of_ne_zero someRoom, rfl⟩

theorem fits_error (made : fits room count = .error errno) : room = 0 ∧ errno = .again := by
  unfold fits at made
  split at made
  · next full =>
      cases made
      exact ⟨full, rfl⟩
  · cases made

theorem progress_fits (room count : Nat) : progress (fits room count) = min room count := by
  by_cases full : room = 0 <;> simp [fits, full, progress]

theorem write_within (hasRoom : endpoint.HasRoom room) (bytes : Bytes) :
    endpoint.write bytes =
      (fits room bytes.length, endpoint.withRoom (room - bytes.length)) := by
  obtain ⟨inbound, outbound, bound, forced⟩ := endpoint
  obtain ⟨rfl, rfl⟩ := hasRoom
  cases room with
  | zero => simp [write, fits, withRoom]
  | succ room =>
      have left : room + 1 - min (room + 1) bytes.length = room + 1 - bytes.length := by omega
      simp [write, fits, withRoom, left]

end Endpoint

/-- Such a stream never interrupts, so the first attempt counts. -/
theorem Handle.write_within (handle : Handle) {room : Nat}
    (hasRoom : handle.endpoint.HasRoom room) (bytes : Bytes) :
    (handle.write bytes).1 = Endpoint.fits room bytes.length ∧
      (handle.write bytes).2.endpoint = handle.endpoint.withRoom (room - bytes.length) := by
  rw [Handle.write_unfolds, Handle.attempt, Endpoint.write_within hasRoom]
  by_cases full : room = 0
  · simp [Endpoint.fits, full, Errno.again, Errno.interrupted, Handle.after]
  · simp [Endpoint.fits, full, Handle.after]

end Kernel

namespace Line

variable {line : Line} {room : Nat}

theorem write_within (hasRoom : line.stream.HasRoom room) {bytes : Bytes}
    {result : Except Errno Nat} {handle : Handle}
    (made : line.handle.write bytes = (result, handle)) :
    result = Endpoint.fits room bytes.length ∧
      handle.endpoint = line.stream.withRoom (room - bytes.length) ∧
      (line.withHandle handle).taken = line.taken ++ bytes.take room := by
  obtain ⟨isResult, isEndpoint⟩ := Handle.write_within line.handle hasRoom bytes
  rw [made] at isResult isEndpoint
  refine ⟨isResult, isEndpoint, ?_⟩
  rw [(Wrote.of_write made).total, show result = _ from isResult, Endpoint.progress_fits,
    ← List.take_eq_take_min]

/-! ## Flushing -/

structure Drained (room : Nat) (before after : Line) : Prop where
  session : after.session =
    { before.session with pending := before.session.pending.drop room }
  stream : after.stream = before.stream.withRoom (room - before.session.pending.length)
  taken : after.taken = before.taken ++ before.session.pending.take room

theorem drainPending_within (hasRoom : line.stream.HasRoom room) :
    line.drainPending.1 = .ok () ∧ Drained room line line.drainPending.2 := by
  fun_induction drainPending line generalizing room with
  | case1 line noneLeft =>
      refine ⟨rfl, ?_, ?_, ?_⟩
      · rw [noneLeft, List.drop_nil, ← noneLeft]
      · rw [noneLeft, Endpoint.withRoom, List.length_nil, Nat.sub_zero, ← hasRoom.bounded]
      · rw [noneLeft, List.take_nil, List.append_nil]
  | case2 line someLeft handle made =>
      -- Where there is room, a write takes at least one byte.
      obtain ⟨isNone, _, _⟩ := write_within hasRoom made
      obtain ⟨someRoom, noneTaken⟩ := Endpoint.fits_ok isNone.symm
      have somePending := List.length_pos_iff.mpr someLeft
      omega
  | case3 line someLeft count handle made shorter =>
      rename_i ih
      obtain ⟨isCount, stream, taken⟩ := write_within hasRoom made
      obtain ⟨someRoom, isMin⟩ := Endpoint.fits_ok isCount.symm
      rw [Nat.succ_eq_add_one] at isMin
      have shorterStream : shorter.stream =
          line.stream.withRoom (room - line.session.pending.length) := stream
      have hasLess := hasRoom.withRoom (room - line.session.pending.length)
      rw [← shorterStream] at hasLess
      obtain ⟨ok, drained⟩ := ih hasLess
      -- After this write either the tail or the room is used up.
      have shorterPending : shorter.session.pending = line.session.pending.drop (count + 1) := rfl
      have rest : count + 1 + (room - line.session.pending.length) = room := by omega
      refine ⟨ok, ?_, ?_, ?_⟩
      · rw [drained.session, shorterPending, List.drop_drop, rest]
        rfl
      · have left : room - line.session.pending.length -
            (line.session.pending.length - (count + 1)) = room - line.session.pending.length := by
          omega
        rw [drained.stream, shorterStream, shorterPending, List.length_drop, left]
        rfl
      · have shorterTaken : shorter.taken =
            line.taken ++ line.session.pending.take (count + 1) := by
          rw [isMin, ← List.take_eq_take_min]
          exact taken
        rw [drained.taken, shorterTaken, shorterPending, List.append_assoc, ← List.take_add, rest]
  | case4 line someLeft handle made =>
      obtain ⟨isAgain, stream, taken⟩ := write_within hasRoom made
      obtain ⟨rfl, _⟩ := Endpoint.fits_error isAgain.symm
      exact ⟨rfl, rfl, stream, taken⟩
  | case5 line someLeft errno handle made fatal =>
      obtain ⟨isFatal, _, _⟩ := write_within hasRoom made
      exact absurd (Endpoint.fits_error isFatal.symm).2 fatal

theorem flush_within (hasRoom : line.stream.HasRoom room) :
    line.flush.1 = .ok () ∧ Drained room line line.flush.2 := by
  obtain ⟨ok, drained⟩ := drainPending_within hasRoom
  obtain ⟨result, after⟩ := flush_drained line
  rw [ok] at result
  refine ⟨result, ?_⟩
  rcases after with same | noted
  · rw [same]
    exact drained
  · rw [noted]
    exact ⟨drained.session, drained.stream, drained.taken⟩

/-! ## Sending -/

def verdict (room tail frame : Nat) : Sending :=
  if tail + frame ≤ room then .sent else if tail < room then .partly else .dropped

/-- Where the room ends decides what becomes of the frame. -/
structure Settled (room : Nat) (frame : Bytes) (before : Line) (sending : Sending) (after : Line) :
    Prop where
  decided : sending = verdict room before.session.pending.length frame.length
  taken : after.taken = before.taken ++ (before.session.pending ++ frame).take room
  pending : after.session.pending =
    (before.session.pending ++ (sending.carried frame).flatten).drop room
  stream : after.stream =
    before.stream.withRoom (room - (before.session.pending.length + frame.length))

theorem offer_within {frame : Bytes} (hasRoom : line.stream.HasRoom room) (someFrame : frame ≠ [])
    (clear : line.session.pending = []) :
    Settled room frame line (line.offer frame).1 (line.offer frame).2 := by
  have someBytes := List.length_pos_iff.mpr someFrame
  have whole : line.session.pending ++ frame = frame := by rw [clear, List.nil_append]
  have noneLeft : line.session.pending.length = 0 := List.length_eq_zero_iff.mpr clear
  have sum : line.session.pending.length + frame.length = frame.length := by omega
  unfold offer
  split
  · next count handle made =>
      obtain ⟨isCount, stream, taken⟩ := write_within hasRoom made
      obtain ⟨someRoom, isMin⟩ := Endpoint.fits_ok isCount.symm
      rw [← whole] at taken
      rw [← sum] at stream
      dsimp only
      split
      · next all =>
          have enough : frame.length ≤ room := by omega
          refine ⟨?_, taken, ?_, stream⟩
          · simp [verdict, noneLeft, enough]
          · simp [update, withHandle, Session.countSent, Sending.carried, clear, enough]
      · next cut =>
          -- A write takes as much as fits, so one that is cut has used up the room.
          have short : room < frame.length := by omega
          have isRoom : count = room := by omega
          rw [if_neg (by omega)]
          refine ⟨?_, taken, ?_, stream⟩
          · simp [verdict, noneLeft, short, someRoom]
          · simp [update, withHandle, Sending.carried, clear, isRoom]
  · next errno handle made =>
      obtain ⟨isErrno, stream, taken⟩ := write_within hasRoom made
      obtain ⟨full, rfl⟩ := Endpoint.fits_error isErrno.symm
      rw [← whole] at taken
      rw [← sum] at stream
      rw [if_pos rfl]
      refine ⟨?_, taken, ?_, stream⟩
      · simp [verdict, noneLeft, someFrame, full]
      · simp [update, withHandle, Session.countDropped, Sending.carried, clear]

/-- Behind a tail that is still there the frame has no chance. -/
theorem Drained.dropped {after : Line} {frame : Bytes} (drained : Drained room line after)
    (short : room < line.session.pending.length) :
    Settled room frame line .dropped (after.update Session.countDropped) where
  decided := by rw [verdict, if_neg (by omega), if_neg (by omega)]
  taken := by
    rw [List.take_append_of_le_length (Nat.le_of_lt short)]
    exact drained.taken
  pending := by
    rw [Sending.carried, List.flatten_nil, List.append_nil]
    exact congrArg Session.pending drained.session
  stream := by
    have noneLeft : room - line.session.pending.length =
        room - (line.session.pending.length + frame.length) := by omega
    rw [← noneLeft]
    exact drained.stream

/-- Behind a tail that is gone the frame has the room that the tail has left. -/
theorem Drained.settled {middle after : Line} {frame : Bytes} {sending : Sending}
    (drained : Drained room line middle) (enough : line.session.pending.length ≤ room)
    (clear : middle.session.pending = [])
    (settled : Settled (room - line.session.pending.length) frame middle sending after) :
    Settled room frame line sending after where
  decided := by
    have all : 0 + frame.length ≤ room - line.session.pending.length ↔
        line.session.pending.length + frame.length ≤ room := by omega
    have someRoom : 0 < room - line.session.pending.length ↔
        line.session.pending.length < room := by omega
    simp only [settled.decided, clear, verdict, List.length_nil, all, someRoom]
  taken := by
    rw [settled.taken, drained.taken, clear, List.nil_append, List.take_append, List.append_assoc]
  pending := by
    rw [settled.pending, clear, List.nil_append, List.drop_append, List.drop_eq_nil_of_le enough,
      List.nil_append]
  stream := by
    rw [settled.stream, drained.stream, clear, List.length_nil, Nat.zero_add, Nat.sub_sub]
    rfl

theorem send_within {frame : Bytes} (hasRoom : line.stream.HasRoom room) (someFrame : frame ≠ [])
    (connected : line.session.connected = true) :
    Settled room frame line (line.send frame).1 (line.send frame).2 := by
  obtain ⟨ok, drained⟩ := flush_within hasRoom
  unfold send
  rw [connected, Bool.not_true, if_neg Bool.false_ne_true]
  split
  · next clear =>
      have clear : line.session.pending = [] := by simpa [Session.wantsWrite] using clear
      exact offer_within hasRoom someFrame clear
  · next owing =>
      split
      · next parting after failed =>
          rw [failed] at ok
          cases ok
      · next after made =>
          rw [made] at drained
          have pending : after.session.pending = line.session.pending.drop room :=
            congrArg Session.pending drained.session
          split
          · next still =>
              have short : room < line.session.pending.length := by
                simpa [Session.wantsWrite, pending] using still
              exact drained.dropped short
          · next gone =>
              have enough : line.session.pending.length ≤ room := by
                simpa [Session.wantsWrite, pending] using gone
              have clear : after.session.pending = [] := by
                rw [pending, List.drop_eq_nil_of_le enough]
              have hasLess := hasRoom.withRoom (room - line.session.pending.length)
              rw [← drained.stream] at hasLess
              exact drained.settled enough clear (offer_within hasLess someFrame clear)

/-! ## Lengths -/

def owing (room tail frame : Nat) : Sending → Nat
  | .sent => 0
  | .partly => tail + frame - room
  | .dropped | .closed _ => tail - room

namespace Settled

variable {frame : Bytes} {sending : Sending} {after : Line}

theorem count (settled : Settled room frame line sending after) :
    after.taken.length =
      line.taken.length + min room (line.session.pending.length + frame.length) := by
  rw [settled.taken, List.length_append, List.length_take, List.length_append]

theorem owed (settled : Settled room frame line sending after) :
    after.session.pending.length =
      owing room line.session.pending.length frame.length sending := by
  rw [settled.pending, settled.decided, verdict]
  split
  · next all =>
      have noneLeft := Nat.sub_eq_zero_of_le all
      simpa [Sending.carried, owing] using noneLeft
  · split
    · simp [Sending.carried, owing]
    · simp [Sending.carried, owing]

end Settled

/-- The three lengths settle all: the frame is sent if there is room for it behind the
tail, split if the room ends inside it, and dropped if the room ends with the tail or
before. The stream takes what fits, in order, and the rest of what was begun is left. -/
theorem room_decides (line : Line) (frame : Bytes) (room : Nat)
    (connected : line.session.connected = true) (someFrame : frame ≠ [])
    (hasRoom : line.stream.HasRoom room) :
    let tail := line.session.pending
    let sending := (line.send frame).1
    let after := (line.send frame).2
    let flushed := line.flush.2
    (sending = verdict room tail.length frame.length ∧
      after.taken = line.taken ++ (tail ++ frame).take room ∧
      after.taken.length = line.taken.length + min room (tail.length + frame.length) ∧
      after.session.pending = (tail ++ (sending.carried frame).flatten).drop room ∧
      after.session.pending.length = owing room tail.length frame.length sending ∧
      after.stream = line.stream.withRoom (room - (tail.length + frame.length))) ∧
    line.flush.1 = .ok () ∧
      flushed.taken = line.taken ++ tail.take room ∧
      flushed.taken.length = line.taken.length + min room tail.length ∧
      flushed.session.pending = tail.drop room ∧
      flushed.session.pending.length = tail.length - min room tail.length ∧
      flushed.stream = line.stream.withRoom (room - tail.length) := by
  intro tail sending after flushed
  have settled := send_within hasRoom someFrame connected
  obtain ⟨ok, drained⟩ := flush_within hasRoom
  have pending : flushed.session.pending = tail.drop room :=
    congrArg Session.pending drained.session
  refine ⟨⟨settled.decided, settled.taken, settled.count, settled.pending, settled.owed,
    settled.stream⟩, ok, drained.taken, ?_, pending, ?_, drained.stream⟩
  · rw [show flushed.taken = _ from drained.taken, List.length_append, List.length_take]
  · rw [pending, List.length_drop]
    omega

/-- The room ends with the tail: the tail goes out, the frame does not, and nothing is left. -/
theorem room_decides_at_tail :
    let line : Line := ⟨{ id := 1, label := 1, pending := [7, 8] }, { room := some 2 }, {}⟩
    let frame : Bytes := [0, 0, 0, 1, 9]
    (line.send frame).1 = .dropped ∧ (line.send frame).2.taken = [7, 8] ∧
      (line.send frame).2.session.pending = [] := by
  intro line frame
  obtain ⟨⟨sending, taken, _, pending, _⟩, _⟩ :=
    room_decides line frame 2 rfl (by decide) ⟨rfl, rfl⟩
  refine ⟨sending, taken, ?_⟩
  rw [pending, sending]
  rfl

end Line
end PacketRelay
