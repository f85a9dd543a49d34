import PacketRelay.Proofs.Broadcasting

/-!
A broadcast turn by turn. Everyone on the roster gets one turn, in which the frame is
sent on a stream of its own: in one piece if no tail is in the way, and as a whole or
not at all if one is.
-/

namespace PacketRelay

open Kernel (Handle)

def Session.tag (session : Session) : Nat × Nat :=
  (session.id, session.label)

namespace Line

variable {line : Line}

/-! ## What one turn adds to a stream -/

theorem Wrote.pays {after : Line} {result : Except Errno Nat}
    (wrote : Wrote line line.session.pending result after) :
    after.taken ++ line.session.pending.drop (progress result) =
      line.taken ++ line.session.pending := by
  rw [wrote.total, List.append_assoc, List.take_append_drop]

theorem drainPending_moves (line : Line) :
    line.drainPending.2.taken ++ line.drainPending.2.session.pending =
      line.taken ++ line.session.pending := by
  fun_induction drainPending line with
  | case1 => rfl
  | case2 line someLeft handle made => exact (Wrote.of_write made).pays
  | case3 line someLeft count handle made shorter ih => exact ih.trans (Wrote.of_write made).pays
  | case4 line someLeft handle made => exact (Wrote.of_write made).pays
  | case5 line someLeft errno handle made fatal => exact (Wrote.of_write made).pays

theorem flush_moves (line : Line) :
    line.flush.2.taken ++ line.flush.2.session.pending = line.taken ++ line.session.pending := by
  have drained := drainPending_moves line
  rcases (flush_drained line).2 with same | noted
  · rw [same]
    exact drained
  · rw [noted]
    exact drained

theorem offer_adds (frame : Bytes) (clear : line.session.pending = []) :
    (line.offer frame).2.taken ++ (line.offer frame).2.session.pending =
      line.taken ++ ((line.offer frame).1.carried frame).flatten := by
  unfold offer
  split
  · next count handle made =>
      have wrote := Wrote.of_write made
      have total : (line.withHandle handle).taken = line.taken ++ frame.take count := wrote.total
      dsimp only
      split
      · next whole =>
          rw [whole, List.take_length] at total
          change (line.withHandle handle).taken ++ line.session.pending =
            line.taken ++ [frame].flatten
          rw [total, clear, List.append_nil, List.flatten_singleton]
      · split
        · next noneTaken =>
            change (line.withHandle handle).taken ++ line.session.pending = line.taken ++ [].flatten
            rw [total, clear, noneTaken, List.take_zero, List.append_nil, List.flatten_nil]
        · change (line.withHandle handle).taken ++ (line.session.pending ++ frame.drop count) =
            line.taken ++ [frame].flatten
          rw [total, clear, List.nil_append, List.append_assoc, List.take_append_drop,
            List.flatten_singleton]
  · next errno handle made =>
      have wrote := Wrote.of_write made
      have total : (line.withHandle handle).taken = line.taken ++ frame.take 0 := wrote.total
      have same : (line.withHandle handle).taken ++ line.session.pending =
          line.taken ++ [].flatten := by
        rw [total, clear, List.take_zero, List.append_nil, List.flatten_nil]
      split
      · exact same
      · exact same

/-- The frame goes behind the tail, whole, or nowhere. -/
theorem send_adds (frame : Bytes) (line : Line) :
    (line.send frame).2.taken ++ (line.send frame).2.session.pending =
      line.taken ++ line.session.pending ++ ((line.send frame).1.carried frame).flatten := by
  have flushed := flush_moves line
  unfold send
  split
  · exact (List.append_nil _).symm
  · split
    · next clear =>
        have clear : line.session.pending = [] := by simpa [Session.wantsWrite] using clear
        rw [offer_adds frame clear, clear, List.append_nil]
    · split
      · next parting after made =>
          rw [made] at flushed
          exact flushed.trans (List.append_nil _).symm
      · next after made =>
          rw [made] at flushed
          split
          · exact flushed.trans (List.append_nil _).symm
          · next clear =>
              have clear : after.session.pending = [] := by
                simpa [Session.wantsWrite] using clear
              rw [← flushed, offer_adds frame clear, clear, List.append_nil]

theorem offer_calls (frame : Bytes) (line : Line) :
    ∃ result interruptions, result ≠ .error .interrupted ∧ (line.offer frame).2.calls =
      Handle.attempts (.write (.client line.session.label) frame) result interruptions ++
        line.calls := by
  obtain ⟨last, interruptions, settled, outcome⟩ :=
    Handle.write_spec frame (.client line.session.label) line.stream
  have made : line.handle.write frame = _ := outcome line.record
  refine ⟨_, interruptions, settled, ?_⟩
  unfold offer
  rw [made]
  cases (last.write frame).1 with
  | ok taken =>
      dsimp only
      split
      · rfl
      · split
        · rfl
        · rfl
  | error errno =>
      dsimp only
      split
      · rfl
      · rfl

/-- What one turn of a broadcast comes to for the session whose turn it is. -/
structure Handed (frame : Bytes) (before : Line) (sending : Sending) (after : Line) : Prop where
  sent : before.send frame = (sending, after)
  who : after.session.tag = before.session.tag
  /-- Together the stream and the tail have gained the frame as it is, or nothing. -/
  gained : after.taken ++ after.session.pending =
    before.taken ++ before.session.pending ++ (sending.carried frame).flatten
  written : before.session.connected = true → before.session.pending = [] →
    ∃ result interruptions, result ≠ .error .interrupted ∧ after.calls =
      Handle.attempts (.write (.client before.session.label) frame) result interruptions ++
        before.calls

theorem send_handed (frame : Bytes) (line : Line) :
    Handed frame line (line.send frame).1 (line.send frame).2 where
  sent := rfl
  who := by
    have sends := send_sends frame line
    exact Prod.ext sends.id sends.label
  gained := send_adds frame line
  written connected clear := by
    have offered : line.send frame = line.offer frame := by
      simp [send, connected, Session.wantsWrite, clear]
    rw [offered]
    exact offer_calls frame line

end Line

namespace Roster

/-- Each session in turn has been handed the frame, on the kernel as the turns before
have left it. -/
inductive Turns (frame : Bytes) : List Session → Kernel → List (Session × Sending) → Kernel → Prop
  | nobody (kernel : Kernel) : Turns frame [] kernel [] kernel
  | turn {session : Session} {rest : List Session} {kernel last : Kernel} {sending : Sending}
      {line : Line} {later : List (Session × Sending)}
      (handed : Line.Handed frame (kernel.line session) sending line)
      (others : Turns frame rest (kernel.overLine line) later last) :
      Turns frame (session :: rest) kernel ((line.session, sending) :: later) last

theorem offer_turns (frame : Bytes) (sessions : List Session) (kernel : Kernel) :
    Turns frame sessions kernel (offer frame sessions kernel).1
      (offer frame sessions kernel).2 := by
  induction sessions generalizing kernel with
  | nil => exact .nobody kernel
  | cons session rest ih => exact .turn (Line.send_handed frame (kernel.line session)) (ih _)

/-- Those whose turn ends with a closed stream are handed back, the others stay, and the
order is kept on both sides. -/
theorem broadcast_turns {roster : Roster} (frame : Bytes) (kernel : Kernel)
    (ordered : roster.Ordered) :
    ∃ offers last, Turns frame roster.sessions kernel offers last ∧
      (roster.broadcast frame kernel).1.closed = offers.filterMap closedBy ∧
      (roster.broadcast frame kernel).2 = ({ roster with
        sessions := (offers.filter fun offer => !offer.2.isClosed).map (·.1) }, last) := by
  have stays : (fun offer => (closedBy offer).isNone) = fun offer => !offer.2.isClosed :=
    funext fun offer => closedBy_isNone offer.1 offer.2
  refine ⟨_, _, offer_turns frame roster.sessions kernel, ?_⟩
  rw [broadcast_eq frame kernel ordered, stays]
  exact ⟨rfl, rfl⟩

end Roster
end PacketRelay
