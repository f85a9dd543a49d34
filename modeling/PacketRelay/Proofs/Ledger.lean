import PacketRelay.Proofs.History
import PacketRelay.Proofs.Retrying
import PacketRelay.Session.Service

/-!
The send ledger of a session. What its stream has taken, followed by the tail
that is still to go, is exactly the frames that were sent whole or in part.
-/

namespace PacketRelay

open Kernel (Call Endpoint Handle)
open History (taken takenBy Throughout)

/-- The bytes are these frames, but for a tail of the last one that is still owed. -/
structure Owes (bytes : Bytes) (frames : List Bytes) (tail : Bytes) : Prop where
  total : bytes ++ tail = frames.flatten
  proper : tail ≠ [] → ∃ last, frames.getLast? = some last ∧ tail <:+ last ∧ tail ≠ last

namespace Owes

variable {bytes tail frame : Bytes} {frames : List Bytes}

theorem pay (owes : Owes bytes frames tail) (count : Nat) :
    Owes (bytes ++ tail.take count) frames (tail.drop count) where
  total := by rw [List.append_assoc, List.take_append_drop, owes.total]
  proper someLeft := by
    have someTail : tail ≠ [] := by
      rintro rfl
      simp at someLeft
    obtain ⟨last, isLast, suffix, different⟩ := owes.proper someTail
    have shorter := (List.drop_suffix count tail).trans suffix
    refine ⟨last, isLast, shorter, ?_⟩
    -- If what is left were the whole frame, nothing would have been paid before.
    intro same
    have back : tail.length ≤ (tail.drop count).length := same ▸ suffix.length_le
    exact different (by
      rw [← same]
      exact ((List.drop_suffix count tail).eq_of_length_le back).symm)

theorem push (owes : Owes bytes frames []) {count : Nat} (someTaken : 0 < count)
    (fits : count ≤ frame.length) :
    Owes (bytes ++ frame.take count) (frames ++ [frame]) (frame.drop count) where
  total := by
    have paid := owes.total
    rw [List.append_nil] at paid
    simp [paid]
  proper _ := by
    refine ⟨frame, by simp, List.drop_suffix count frame, ?_⟩
    intro same
    have shorter := congrArg List.length same
    rw [List.length_drop] at shorter
    omega

theorem push_whole (owes : Owes bytes frames []) :
    Owes (bytes ++ frame) (frames ++ [frame]) [] where
  total := by
    have paid := owes.total
    rw [List.append_nil] at paid
    simp [paid]
  proper absent := absurd rfl absent

end Owes

/-- The frames that count as sent when an offer ends like this: the one that
was offered, or none. -/
def Sending.carried (frame : Bytes) : Sending → List Bytes
  | .sent | .partly => [frame]
  | .dropped | .closed _ => []

def Sending.isClosed : Sending → Bool
  | .closed _ => true
  | _ => false

/-! ## One write to a stream -/

theorem Kernel.Endpoint.write_le (bytes : Bytes) (endpoint : Endpoint) (count : Nat)
    (success : (endpoint.write bytes).1 = .ok count) : count ≤ bytes.length := by
  unfold Endpoint.write at success
  split at success
  · simp at success
  · simp at success; omega
  · simp at success; omega
  · split at success
    · simp at success; omega
    · simp at success
    · simp at success; omega

def progress : Except Errno Nat → Nat
  | .ok count => count
  | .error _ => 0

theorem takenBy_write (label : Nat) (bytes : Bytes) (result : Except Errno Nat) :
    takenBy label (.write (.client label) bytes result) = bytes.take (progress result) := by
  cases result <;> simp [takenBy, progress]

namespace Line

def calls (line : Line) : List Call := line.record.calls

def taken (line : Line) : Bytes := History.taken line.session.label line.calls

/-- A property of the bytes taken, at every moment from one line to a later one. -/
def Throughout (holds : Bytes → Prop) (before after : Line) : Prop :=
  History.Throughout (fun calls => holds (History.taken before.session.label calls))
    before.calls after.calls

structure Wrote (line : Line) (bytes : Bytes) (result : Except Errno Nat) (after : Line) :
    Prop where
  session : after.session = line.session
  fits : ∀ count, result = .ok count → count ≤ bytes.length
  only : ∃ new, after.calls = new ++ line.calls ∧
    ∀ call ∈ new, ∃ made, call = .write (.client line.session.label) bytes made
  notices : after.record.notices = line.record.notices
  total : after.taken = line.taken ++ bytes.take (progress result)
  throughout : ∀ holds : Bytes → Prop, holds line.taken → holds after.taken →
    line.Throughout holds after

theorem Wrote.of_attempts {line : Line} {bytes : Bytes} {result : Except Errno Nat}
    {after : Line} {interruptions : Nat} (session : after.session = line.session)
    (fits : ∀ count, result = .ok count → count ≤ bytes.length)
    (made : after.calls = Handle.attempts (.write (.client line.session.label) bytes) result
      interruptions ++ line.calls)
    (notices : after.record.notices = line.record.notices) : Wrote line bytes result after where
  session := session
  notices := notices
  fits := fits
  only := by
    refine ⟨_, made, ?_⟩
    intro call member
    rcases List.mem_cons.mp member with rfl | retried
    · exact ⟨result, rfl⟩
    · exact ⟨_, List.eq_of_mem_replicate retried⟩
  total := by
    -- Of all attempts only the last puts bytes on the stream.
    have idle : History.taken line.session.label (List.replicate interruptions
        (.write (.client line.session.label) bytes (.error .interrupted))) = [] :=
      History.taken_eq_nil _ _ fun call member => by
        rw [List.eq_of_mem_replicate member]
        rfl
    rw [taken, made, session, Handle.attempts, List.cons_append, History.taken_cons,
      History.taken_append, idle, takenBy_write, List.append_nil, taken]
  throughout holds start finish := by
    have idle : History.Throughout
        (fun calls => holds (History.taken line.session.label calls)) line.calls
        (List.replicate interruptions
          (.write (.client line.session.label) bytes (.error .interrupted)) ++ line.calls) :=
      .append _ start fun call member calls kept => by
        rw [List.eq_of_mem_replicate member, History.taken_cons]
        simpa [takenBy] using kept
    have endHolds : holds (History.taken line.session.label after.calls) := by
      rw [← session]
      exact finish
    rw [made] at endHolds
    simpa [Line.Throughout, made, Handle.attempts] using idle.cons _ endHolds

theorem Wrote.of_write {line : Line} {bytes : Bytes} {result : Except Errno Nat} {handle : Handle}
    (made : line.handle.write bytes = (result, handle)) :
    Wrote line bytes result (line.withHandle handle) := by
  obtain ⟨last, interruptions, _, outcome⟩ :=
    Handle.write_spec bytes (.client line.session.label) line.stream
  have whole : line.handle.write bytes = _ := outcome line.record
  cases whole.symm.trans made
  exact .of_attempts rfl (Endpoint.write_le bytes last) rfl rfl

/-! ## Flushing and sending -/

/-- Only the sending side of the session has changed, only writes to its stream
have been made, and no one has been reported to part. -/
structure Sends (before after : Line) : Prop where
  session : ∃ connected pending sent dropped, after.session =
    { before.session with
      connected, pending, tally := { before.session.tally with sent, dropped } }
  only : ∃ new, after.calls = new ++ before.calls ∧
    ∀ call ∈ new, ∃ bytes result, call = .write (.client before.session.label) bytes result
  notices : ∃ news, after.record.notices = news ++ before.record.notices ∧
    ∀ notice ∈ news, notice.isParting = false

theorem Sends.refl (line : Line) : Sends line line where
  session := ⟨_, _, _, _, rfl⟩
  only := ⟨[], rfl, by simp⟩
  notices := ⟨[], rfl, by simp⟩

theorem Sends.label {before after : Line} (sends : Sends before after) :
    after.session.label = before.session.label := by
  obtain ⟨_, _, _, _, session⟩ := sends.session
  rw [session]

theorem Sends.id {before after : Line} (sends : Sends before after) :
    after.session.id = before.session.id := by
  obtain ⟨_, _, _, _, session⟩ := sends.session
  rw [session]

theorem Sends.trans {before middle after : Line} (first : Sends before middle)
    (second : Sends middle after) : Sends before after where
  session := by
    obtain ⟨_, _, _, _, one⟩ := first.session
    obtain ⟨connected, pending, sent, dropped, two⟩ := second.session
    exact ⟨connected, pending, sent, dropped, by rw [two, one]⟩
  only := by
    obtain ⟨one, appended, writes⟩ := first.only
    obtain ⟨two, appendedLater, writesLater⟩ := second.only
    refine ⟨two ++ one, by rw [appendedLater, appended, List.append_assoc], ?_⟩
    intro call member
    rcases List.mem_append.mp member with later | sooner
    · obtain ⟨bytes, result, made⟩ := writesLater call later
      exact ⟨bytes, result, by rw [made, first.label]⟩
    · exact writes call sooner
  notices := by
    obtain ⟨one, appended, plain⟩ := first.notices
    obtain ⟨two, appendedLater, plainLater⟩ := second.notices
    refine ⟨two ++ one, by rw [appendedLater, appended, List.append_assoc], ?_⟩
    intro notice member
    rcases List.mem_append.mp member with later | sooner
    · exact plainLater notice later
    · exact plain notice sooner

theorem Wrote.sends {line after : Line} {bytes : Bytes} {result : Except Errno Nat}
    (wrote : Wrote line bytes result after) : Sends line after where
  session := ⟨_, _, _, _, wrote.session⟩
  only := by
    obtain ⟨new, appended, writes⟩ := wrote.only
    exact ⟨new, appended, fun call member => ⟨bytes, writes call member⟩⟩
  notices := ⟨[], wrote.notices, by simp⟩

theorem Sends.update (line : Line) (change : Session → Session)
    (sending : ∃ connected pending sent dropped, change line.session =
      { line.session with
        connected, pending, tally := { line.session.tally with sent, dropped } }) :
    Sends line (line.update change) where
  session := sending
  only := ⟨[], rfl, by simp⟩
  notices := ⟨[], rfl, by simp⟩

theorem Sends.disconnect (line : Line) : Sends line line.disconnect :=
  .update line _ ⟨_, _, _, _, rfl⟩

theorem Sends.note (line : Line) (notice : Log.Notice) (plain : notice.isParting = false) :
    Sends line (line.note notice) where
  session := ⟨_, _, _, _, rfl⟩
  only := ⟨[], rfl, by simp⟩
  notices := ⟨[notice], rfl, by simpa using plain⟩

theorem drainPending_sends (line : Line) : Sends line line.drainPending.2 := by
  fun_induction drainPending line with
  | case1 line noneLeft => exact .refl line
  | case2 line someLeft handle made => exact (Wrote.of_write made).sends
  | case3 line someLeft count handle made shorter ih =>
      exact (Wrote.of_write made).sends.trans (.trans (.update _ _ ⟨_, _, _, _, rfl⟩) ih)
  | case4 line someLeft handle made => exact (Wrote.of_write made).sends
  | case5 line someLeft errno handle made fatal =>
      exact (Wrote.of_write made).sends.trans (.disconnect _)

/-- A flush drains the tail, and then may give notice that it is gone. -/
theorem flush_drained (line : Line) :
    line.flush.1 = line.drainPending.1.mapError Parting.io ∧
      (line.flush.2 = line.drainPending.2 ∨
        line.flush.2 = line.drainPending.2.note (.caughtUp line.session.id)) := by
  unfold flush
  cases line.drainPending with
  | mk result after =>
      cases result with
      | error errno => exact ⟨rfl, .inl rfl⟩
      | ok _ =>
          dsimp only
          split
          · exact ⟨rfl, .inr rfl⟩
          · exact ⟨rfl, .inl rfl⟩

theorem flush_sends (line : Line) : Sends line line.flush.2 := by
  have drained := drainPending_sends line
  rcases (flush_drained line).2 with same | noted
  · rw [same]
    exact drained
  · rw [noted]
    exact drained.trans (.note _ _ rfl)

theorem offer_sends (frame : Bytes) (line : Line) : Sends line (line.offer frame).2 := by
  unfold offer
  split
  · next count handle made =>
      have wrote := (Wrote.of_write made).sends
      dsimp only
      split
      · exact wrote.trans (.update _ _ ⟨_, _, _, _, rfl⟩)
      · split
        · exact wrote.trans (.update _ _ ⟨_, _, _, _, rfl⟩)
        · exact wrote.trans (.update (line.withHandle handle) (fun session =>
            { session.countSent with pending := session.pending ++ frame.drop count })
            ⟨_, _, _, _, rfl⟩)
  · next errno handle made =>
      have wrote := (Wrote.of_write made).sends
      dsimp only
      split
      · exact wrote.trans (.update _ _ ⟨_, _, _, _, rfl⟩)
      · exact wrote.trans (.disconnect _)

theorem send_sends (frame : Bytes) (line : Line) : Sends line (line.send frame).2 := by
  have flushed := flush_sends line
  unfold send
  split
  · exact .refl line
  · split
    · exact offer_sends frame line
    · split
      · next parting after made =>
          rw [made] at flushed
          exact flushed
      · next after made =>
          rw [made] at flushed
          split
          · exact flushed.trans (.update _ _ ⟨_, _, _, _, rfl⟩)
          · exact flushed.trans (offer_sends frame after)

theorem Sends.of_flush {line after : Line} {result : Except Parting Unit}
    (flush : line.flush = (result, after)) : Sends line after := by
  have sends := flush_sends line
  rwa [flush] at sends

theorem Sends.of_send {frame : Bytes} {line after : Line} {sending : Sending}
    (sent : line.send frame = (sending, after)) : Sends line after := by
  have sends := send_sends frame line
  rwa [sent] at sends

/-! ## What is owed -/

theorem Throughout.refl {holds : Bytes → Prop} (line : Line) (start : holds line.taken) :
    line.Throughout holds line :=
  History.Throughout.refl start

theorem Throughout.trans {holds : Bytes → Prop} {before middle after : Line}
    (first : before.Throughout holds middle) (label : middle.session.label = before.session.label)
    (second : middle.Throughout holds after) : before.Throughout holds after := by
  unfold Line.Throughout at second
  rw [label] at second
  exact History.Throughout.trans first second

def Aligned (frames : List Bytes) (bytes : Bytes) : Prop :=
  ∃ tail, Owes bytes frames tail

variable {frames : List Bytes}

theorem Wrote.paid {line after : Line} {result : Except Errno Nat}
    (wrote : Wrote line line.session.pending result after)
    (owes : Owes line.taken frames line.session.pending) :
    Owes after.taken frames (line.session.pending.drop (progress result)) ∧
      line.Throughout (Aligned frames) after := by
  have paid := owes.pay (progress result)
  rw [← wrote.total] at paid
  exact ⟨paid, wrote.throughout _ ⟨_, owes⟩ ⟨_, paid⟩⟩

theorem drainPending_owes (line : Line) (owes : Owes line.taken frames line.session.pending) :
    Owes line.drainPending.2.taken frames line.drainPending.2.session.pending ∧
      line.Throughout (Aligned frames) line.drainPending.2 := by
  fun_induction drainPending line with
  | case1 line noneLeft => exact ⟨owes, .refl line ⟨_, owes⟩⟩
  | case2 line someLeft handle made => exact (Wrote.of_write made).paid owes
  | case3 line someLeft count handle made shorter ih =>
      obtain ⟨paid, soFar⟩ := (Wrote.of_write made).paid owes
      obtain ⟨later, throughout⟩ := ih paid
      exact ⟨later, .trans soFar rfl throughout⟩
  | case4 line someLeft handle made => exact (Wrote.of_write made).paid owes
  | case5 line someLeft errno handle made fatal => exact (Wrote.of_write made).paid owes

theorem flush_owes (line : Line) (owes : Owes line.taken frames line.session.pending) :
    Owes line.flush.2.taken frames line.flush.2.session.pending ∧
      line.Throughout (Aligned frames) line.flush.2 := by
  have drained := drainPending_owes line owes
  rcases (flush_drained line).2 with same | noted
  · rw [same]
    exact drained
  · rw [noted]
    exact drained

structure Offered (frames : List Bytes) (frame : Bytes) (before : Line) (sending : Sending)
    (after : Line) : Prop where
  owes : Owes after.taken (frames ++ sending.carried frame) after.session.pending
  throughout : before.Throughout
    (fun bytes => Aligned frames bytes ∨ Aligned (frames ++ sending.carried frame) bytes) after

theorem Wrote.offered {line middle after : Line} {frame : Bytes} {result : Except Errno Nat}
    {sending : Sending} (wrote : Wrote line frame result middle)
    (owes : Owes line.taken frames []) (calls : after.calls = middle.calls)
    (label : after.session.label = middle.session.label)
    (paid : Owes middle.taken (frames ++ sending.carried frame) after.session.pending) :
    Offered frames frame line sending after where
  owes := by
    have same : after.taken = middle.taken := by rw [taken, taken, calls, label]
    rw [same]
    exact paid
  throughout := by
    have kept := wrote.throughout
      (fun bytes => Aligned frames bytes ∨ Aligned (frames ++ sending.carried frame) bytes)
      (Or.inl ⟨_, owes⟩) (Or.inr ⟨_, paid⟩)
    unfold Line.Throughout at kept ⊢
    rw [calls]
    exact kept

theorem offer_offered (frame : Bytes) (line : Line) (clear : line.session.pending = [])
    (owes : Owes line.taken frames []) :
    Offered frames frame line (line.offer frame).1 (line.offer frame).2 := by
  unfold offer
  split
  · next count handle made =>
      have wrote := Wrote.of_write made
      have fits := wrote.fits count rfl
      have total := wrote.total
      simp only [progress] at total
      dsimp only
      split
      · next whole =>
          refine wrote.offered owes rfl rfl ?_
          have tail : ((line.withHandle handle).update Session.countSent).session.pending = [] :=
            clear
          rw [tail, total, whole, List.take_length]
          exact owes.push_whole
      · split
        · next noneTaken =>
            refine wrote.offered owes rfl rfl ?_
            have tail : ((line.withHandle handle).update Session.countDropped).session.pending =
              [] := clear
            rw [tail, total, noneTaken, Sending.carried, List.take_zero, List.append_nil,
              List.append_nil]
            exact owes
        · next someTaken =>
            refine wrote.offered owes rfl rfl ?_
            -- A frame that was begun is owed, less the part that was taken.
            have tail : line.session.pending ++ frame.drop count = frame.drop count := by
              rw [clear, List.nil_append]
            have paid := owes.push (Nat.pos_of_ne_zero someTaken) fits
            rw [← tail] at paid
            rw [total]
            exact paid
  · next errno handle made =>
      have wrote := Wrote.of_write made
      have total := wrote.total
      simp only [progress, List.take_zero, List.append_nil] at total
      have tail : (line.withHandle handle).session.pending = [] := clear
      dsimp only
      split
      · refine wrote.offered owes rfl rfl ?_
        rw [total, Sending.carried, List.append_nil]
        exact tail.symm ▸ owes
      · refine wrote.offered owes rfl rfl ?_
        rw [total, Sending.carried, List.append_nil]
        exact tail.symm ▸ owes

theorem send_offered (frame : Bytes) (line : Line)
    (owes : Owes line.taken frames line.session.pending) :
    Offered frames frame line (line.send frame).1 (line.send frame).2 := by
  obtain ⟨flushed, throughout⟩ := flush_owes line owes
  have label := (flush_sends line).label
  have either (after : Line) (sending : Sending)
      (kept : line.Throughout (Aligned frames) after) :
      line.Throughout (fun bytes => Aligned frames bytes ∨
        Aligned (frames ++ sending.carried frame) bytes) after :=
    History.Throughout.imp kept fun _ => Or.inl
  unfold send
  split
  · refine ⟨?_, either line .dropped (.refl line ⟨_, owes⟩)⟩
    simpa [Sending.carried] using owes
  · split
    · next clear =>
        have clear : line.session.pending = [] := by simpa [Session.wantsWrite] using clear
        exact offer_offered frame line clear (clear ▸ owes)
    · split
      · next parting after made =>
          rw [made] at flushed throughout
          refine ⟨?_, either after (.closed parting) throughout⟩
          simpa [Sending.carried] using flushed
      · next after made =>
          rw [made] at flushed throughout label
          split
          · refine ⟨?_, either _ .dropped throughout⟩
            rw [Sending.carried, List.append_nil]
            exact flushed
          · next clear =>
              -- A frame is offered only when no tail of an earlier one is left.
              have clear : after.session.pending = [] := by
                simpa [Session.wantsWrite] using clear
              have offered := offer_offered frame after clear (clear ▸ flushed)
              exact ⟨offered.owes, .trans (either after _ throughout) label offered.throughout⟩

/-! ## Counters -/

/-- A flush changes no counter, and disconnects the session if it fails. -/
theorem drainPending_counts (line : Line) :
    line.drainPending.2.session.tally = line.session.tally ∧
      line.drainPending.2.session.connected =
        (line.session.connected && line.drainPending.1.isOk) := by
  fun_induction drainPending line with
  | case1 line noneLeft => simp [Except.isOk, Except.toBool]
  | case2 line someLeft handle made => simp [Except.isOk, Except.toBool, withHandle]
  | case3 line someLeft count handle made shorter ih => exact ih
  | case4 line someLeft handle made => simp [Except.isOk, Except.toBool, withHandle]
  | case5 line someLeft errno handle made fatal =>
      simp [Except.isOk, Except.toBool, withHandle, disconnect, update]

theorem flush_counts (line : Line) :
    line.flush.2.session.tally = line.session.tally ∧
      line.flush.2.session.connected = (line.session.connected && line.flush.1.isOk) := by
  have drained := drainPending_counts line
  obtain ⟨result, after⟩ := flush_drained line
  have isOk : line.flush.1.isOk = line.drainPending.1.isOk := by
    rw [result]
    cases line.drainPending.1 <;> rfl
  rw [isOk]
  rcases after with same | noted
  · rw [same]
    exact drained
  · rw [noted]
    exact drained

theorem offer_counts (frame : Bytes) (line : Line) :
    (line.offer frame).2.session.tally.sent =
        line.session.tally.sent + ((line.offer frame).1.carried frame).length ∧
      (line.offer frame).2.session.tally.dropped =
        line.session.tally.dropped + (if (line.offer frame).1 = .dropped then 1 else 0) ∧
      (line.offer frame).2.session.connected =
        (line.session.connected && !(line.offer frame).1.isClosed) := by
  unfold offer
  split
  · dsimp only
    split
    · simp [Sending.carried, Sending.isClosed, update, withHandle, Session.countSent]
    · split
      · simp [Sending.carried, Sending.isClosed, update, withHandle, Session.countDropped]
      · simp [Sending.carried, Sending.isClosed, update, withHandle, Session.countSent]
  · dsimp only
    split
    · simp [Sending.carried, Sending.isClosed, update, withHandle, Session.countDropped]
    · simp [Sending.carried, Sending.isClosed, update, withHandle, disconnect]

theorem send_counts (frame : Bytes) (line : Line) (connected : line.session.connected = true) :
    (line.send frame).2.session.tally.sent =
        line.session.tally.sent + ((line.send frame).1.carried frame).length ∧
      (line.send frame).2.session.tally.dropped =
        line.session.tally.dropped + (if (line.send frame).1 = .dropped then 1 else 0) ∧
      (line.send frame).2.session.connected = !(line.send frame).1.isClosed := by
  have flushed := flush_counts line
  unfold send
  split
  · simp_all
  · split
    · have offered := offer_counts frame line
      rwa [connected, Bool.true_and] at offered
    · split
      · next parting after made =>
          simp only [made, connected, Except.isOk, Except.toBool] at flushed
          simp [Sending.carried, Sending.isClosed, flushed]
      · next after made =>
          simp only [made, connected, Except.isOk, Except.toBool] at flushed
          obtain ⟨tally, still⟩ := flushed
          split
          · simp [Sending.carried, Sending.isClosed, update, Session.countDropped, tally, still]
          · have offered := offer_counts frame after
            rw [tally, still, Bool.true_and] at offered
            exact offered

theorem send_counted {frame : Bytes} {line after : Line} {sending : Sending}
    (sent : line.send frame = (sending, after)) (connected : line.session.connected = true)
    (stays : sending.isClosed = false) :
    after.session.tally.sent + after.session.tally.dropped =
      line.session.tally.sent + line.session.tally.dropped + 1 := by
  obtain ⟨isSent, isDropped, _⟩ := send_counts frame line connected
  rw [sent] at isSent isDropped
  rw [isSent, isDropped]
  cases sending with
  | sent | partly => exact Nat.add_right_comm ..
  | dropped => rfl
  | closed => cases stays

theorem send_disconnected (frame : Bytes) (line : Line) (ended : line.session.connected = false) :
    line.send frame = (.dropped, line) := by
  simp [send, ended]

end Line
end PacketRelay
