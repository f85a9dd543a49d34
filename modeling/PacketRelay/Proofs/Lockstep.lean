import PacketRelay.Proofs.Besides
import PacketRelay.Proofs.Sound

/-!
Two runs in lockstep. What is done for another client, or for no client, does
the same in both and keeps them alike; what is done for the client itself, in
one of them, changes nothing besides it.
-/

namespace PacketRelay

open Kernel (Call Endpoint Handle Flags Descriptor)
open History (besides named offered partings server)

/-! ## Lines -/

structure Line.Alike (label : Nat) (one two : Line) : Prop where
  session : one.session.bare = two.session.bare
  stream : one.stream = two.stream
  record : one.record.Alike label two.record

namespace Line

variable {α : Type} {label : Nat} {one two : Line}

structure Agree (label : Nat) (one two : α × Line) : Prop where
  result : one.1 = two.1
  after : Alike label one.2 two.2

theorem Agree.follow {result : α} {two : α × Line} (agree : Agree label (result, one) two) :
    ∃ other, two = (result, other) ∧ Alike label one other := by
  obtain ⟨value, other⟩ := two
  obtain ⟨rfl, after⟩ := agree
  exact ⟨other, rfl, after⟩

namespace Alike

theorem label_eq (alike : Alike label one two) : one.session.label = two.session.label := by
  obtain ⟨n, same⟩ := Session.eq_of_bare alike.session
  rw [same]

theorem pending (alike : Alike label one two) : one.session.pending = two.session.pending := by
  obtain ⟨n, same⟩ := Session.eq_of_bare alike.session
  rw [same]

theorem decoder (alike : Alike label one two) : one.session.decoder = two.session.decoder := by
  obtain ⟨n, same⟩ := Session.eq_of_bare alike.session
  rw [same]

theorem connected (alike : Alike label one two) :
    one.session.connected = two.session.connected := by
  obtain ⟨n, same⟩ := Session.eq_of_bare alike.session
  rw [same]

theorem wantsWrite (alike : Alike label one two) :
    one.session.wantsWrite = two.session.wantsWrite := by
  simp only [Session.wantsWrite, alike.pending]

theorem note (alike : Alike label one two) {notice other : Log.Notice}
    (plain : notice.isParting = false) (also : other.isParting = false) :
    Alike label (one.note notice) (two.note other) :=
  ⟨alike.session, alike.stream, alike.record.note plain also⟩

theorem update (alike : Alike label one two) (change : Session → Session)
    (regardless : ∀ session n, (change { session with tally.forwarded := n }).bare =
      (change session).bare) : Alike label (one.update change) (two.update change) where
  session := by
    obtain ⟨n, same⟩ := Session.eq_of_bare alike.session
    change (change one.session).bare = (change two.session).bare
    rw [same]
    exact (regardless one.session n).symm
  stream := alike.stream
  record := alike.record

theorem disconnect (alike : Alike label one two) : Alike label one.disconnect two.disconnect :=
  alike.update _ fun _ _ => rfl

end Alike

theorem write_follows (alike : Alike label one two) {bytes : Bytes} {result : Except Errno Nat}
    {handle : Handle} (made : one.handle.write bytes = (result, handle)) :
    ∃ other, two.handle.write bytes = (result, other) ∧
      Alike label (one.withHandle handle) (two.withHandle other) := by
  obtain ⟨session, stream, record⟩ := one
  obtain ⟨other, _, also⟩ := two
  obtain ⟨same, rfl, records⟩ := alike
  obtain ⟨n, rfl⟩ := Session.eq_of_bare same
  obtain ⟨last, interruptions, _, outcome⟩ :=
    Handle.write_spec bytes (.client session.label) stream
  simp only [Line.handle, outcome] at made ⊢
  cases made
  exact ⟨_, rfl, same, rfl, records.same _ (Handle.attempts_silent fun _ => rfl)⟩

theorem drainPending_agree (alike : Alike label one two) :
    Agree label one.drainPending two.drainPending := by
  fun_induction drainPending one generalizing two with
  | case1 one noneLeft =>
      rw [drainPending, dif_pos (alike.pending ▸ noneLeft)]
      exact ⟨rfl, alike⟩
  | case2 one someLeft handle made =>
      obtain ⟨other, wrote, after⟩ := write_follows alike made
      rw [drainPending, dif_neg (alike.pending ▸ someLeft), ← alike.pending, wrote]
      exact ⟨rfl, after⟩
  | case3 one someLeft count handle made shorter =>
      rename_i ih
      obtain ⟨other, wrote, after⟩ := write_follows alike made
      rw [drainPending.eq_1 two, dif_neg (alike.pending ▸ someLeft), ← alike.pending, wrote]
      exact ih (after.update _ fun _ _ => rfl)
  | case4 one someLeft handle made =>
      obtain ⟨other, wrote, after⟩ := write_follows alike made
      rw [drainPending, dif_neg (alike.pending ▸ someLeft), ← alike.pending, wrote]
      exact ⟨rfl, after⟩
  | case5 one someLeft errno handle made fatal =>
      obtain ⟨other, wrote, after⟩ := write_follows alike made
      rw [drainPending, dif_neg (alike.pending ▸ someLeft), ← alike.pending, wrote]
      simp only [if_neg fatal]
      exact ⟨rfl, after.disconnect⟩

theorem flush_agree (alike : Alike label one two) : Agree label one.flush two.flush := by
  have drained := drainPending_agree alike
  unfold flush
  split
  · next errno after made =>
      rw [made] at drained
      obtain ⟨other, also, alikeAfter⟩ := drained.follow
      rw [also]
      exact ⟨rfl, alikeAfter⟩
  · next after made =>
      rw [made] at drained
      obtain ⟨other, also, alikeAfter⟩ := drained.follow
      rw [also]
      simp only [alike.wantsWrite, alikeAfter.wantsWrite]
      split
      · exact ⟨rfl, alikeAfter.note rfl rfl⟩
      · exact ⟨rfl, alikeAfter⟩

theorem offer_agree (alike : Alike label one two) (frame : Bytes) :
    Agree label (one.offer frame) (two.offer frame) := by
  unfold offer
  split
  · next count handle made =>
      obtain ⟨other, wrote, after⟩ := write_follows alike made
      rw [wrote]
      dsimp only
      split
      · exact ⟨rfl, after.update _ fun _ _ => rfl⟩
      · split
        · exact ⟨rfl, after.update _ fun _ _ => rfl⟩
        · exact ⟨rfl, after.update (fun session =>
            { session.countSent with pending := session.pending ++ frame.drop count })
            fun _ _ => rfl⟩
  · next errno handle made =>
      obtain ⟨other, wrote, after⟩ := write_follows alike made
      rw [wrote]
      dsimp only
      split
      · exact ⟨rfl, after.update _ fun _ _ => rfl⟩
      · exact ⟨rfl, after.disconnect⟩

theorem send_agree (alike : Alike label one two) (frame : Bytes) :
    Agree label (one.send frame) (two.send frame) := by
  have flushed := flush_agree alike
  unfold send
  simp only [← alike.connected, ← alike.wantsWrite]
  split
  · exact ⟨rfl, alike⟩
  · split
    · exact offer_agree alike frame
    · split
      · next parting after made =>
          rw [made] at flushed
          obtain ⟨other, also, alikeAfter⟩ := flushed.follow
          rw [also]
          exact ⟨rfl, alikeAfter⟩
      · next after made =>
          rw [made] at flushed
          obtain ⟨other, also, alikeAfter⟩ := flushed.follow
          simp only [also, ← alikeAfter.wantsWrite]
          split
          · exact ⟨rfl, alikeAfter.update _ fun _ _ => rfl⟩
          · exact offer_agree alikeAfter frame

theorem Sends.besides {before after : Line} (sends : Sends before after)
    (own : before.session.label = label) : after.record.Alike label before.record := by
  obtain ⟨new, calls, writes⟩ := sends.only
  obtain ⟨news, notices, plain⟩ := sends.notices
  apply Record.Alike.aside new news calls notices _ _ plain
  · intro call member
    obtain ⟨bytes, result, rfl⟩ := writes call member
    simp [Call.swayedBy, own]
  · intro other _
    refine (congrArg (offered other) calls).trans (History.offered_silent ?_)
    intro call member
    obtain ⟨bytes, result, rfl⟩ := writes call member
    rfl

end Line

/-! ## The tunnel's far side -/

namespace Kernel.Endpoint.Alike

variable {one two three : Endpoint}

theorem refl (endpoint : Endpoint) : Alike endpoint endpoint := ⟨rfl, rfl⟩

theorem symm (alike : Alike one two) : Alike two one := ⟨alike.inbound.symm, alike.forced.symm⟩

theorem trans (first : Alike one two) (second : Alike two three) : Alike one three :=
  ⟨first.inbound.trans second.inbound, first.forced.trans second.forced⟩

end Kernel.Endpoint.Alike

theorem Kernel.Endpoint.write_alike (bytes : Bytes) (endpoint : Endpoint) :
    (endpoint.write bytes).2.Alike endpoint := by
  unfold Endpoint.write
  split
  · exact ⟨rfl, rfl⟩
  · exact ⟨rfl, rfl⟩
  · exact ⟨rfl, rfl⟩
  · split <;> exact ⟨rfl, rfl⟩

theorem Kernel.Handle.write_alike (bytes : Bytes) (handle : Handle) :
    (handle.write bytes).2.endpoint.Alike handle.endpoint := by
  fun_induction Handle.write bytes handle with
  | case1 handle taken endpoint made =>
      have wrote := Endpoint.write_alike bytes handle.endpoint
      rw [made] at wrote
      exact wrote
  | case2 handle endpoint made next ih =>
      have wrote := Endpoint.write_alike bytes handle.endpoint
      rw [made] at wrote
      exact ih.trans wrote
  | case3 handle errno endpoint made next final =>
      have wrote := Endpoint.write_alike bytes handle.endpoint
      rw [made] at wrote
      exact wrote

theorem Kernel.Endpoint.readPacket_follows {size : Nat} {one two after : Endpoint}
    {result : Except Errno Bytes} (alike : one.Alike two)
    (made : one.readPacket size = (result, after)) :
    ∃ other, two.readPacket size = (result, other) ∧ after.Alike other := by
  unfold Endpoint.readPacket at made ⊢
  rw [← alike.inbound]
  split at made <;> rename_i sized
  · cases made
    exact ⟨two, if_pos sized, alike⟩
  · rw [if_neg sized]
    split at made
    · cases made
      exact ⟨two, rfl, alike⟩
    · cases made
      exact ⟨_, rfl, rfl, alike.forced⟩
    · cases made
      exact ⟨_, rfl, rfl, alike.forced⟩
    · cases made
      exact ⟨_, rfl, rfl, alike.forced⟩

structure Kernel.Handle.Alike (label : Nat) (one two : Handle) : Prop where
  descriptor : one.descriptor = two.descriptor
  endpoint : one.endpoint.Alike two.endpoint
  record : one.record.Alike label two.record

theorem Kernel.Handle.readPacket_alike {label : Nat} (size : Nat) {one two : Handle}
    (alike : one.Alike label two) : (one.readPacket size).1 = (two.readPacket size).1 ∧
      (one.readPacket size).2.Alike label (two.readPacket size).2 := by
  have madeAlike {one two : Handle} (alike : one.Alike label two) {first second : Endpoint}
      (endpoints : first.Alike second) (result : Except Errno Bytes) :
      (one.after first (.read one.descriptor size result)).Alike label
        (two.after second (.read two.descriptor size result)) := by
    refine ⟨alike.descriptor, endpoints, ?_⟩
    rw [alike.descriptor]
    exact alike.record.call _ rfl
  fun_induction Handle.readPacket size one generalizing two with
  | case1 one bytes endpoint made =>
      obtain ⟨other, alsoMade, endpoints⟩ := Endpoint.readPacket_follows alike.endpoint made
      rw [readPacket_unfolds size two, attempt, alsoMade]
      exact ⟨rfl, madeAlike alike endpoints _⟩
  | case2 one endpoint made next =>
      rename_i ih
      obtain ⟨other, alsoMade, endpoints⟩ := Endpoint.readPacket_follows alike.endpoint made
      rw [readPacket_unfolds size two, attempt, alsoMade]
      exact ih (madeAlike alike endpoints _)
  | case3 one errno endpoint made next =>
      rename_i final
      obtain ⟨other, alsoMade, endpoints⟩ := Endpoint.readPacket_follows alike.endpoint made
      rw [readPacket_unfolds size two, attempt, alsoMade]
      dsimp only
      rw [if_neg final]
      exact ⟨rfl, madeAlike alike endpoints _⟩

theorem Tunnel.receive_alike {label : Nat} (size : Nat) {one two : Handle}
    (alike : one.Alike label two) : (receive size one).1 = (receive size two).1 ∧
      (receive size one).2.Alike label (receive size two).2 := by
  obtain ⟨same, after⟩ := Handle.readPacket_alike size alike
  rw [receive_eq, receive_eq, same]
  exact ⟨rfl, after⟩

namespace Circuit

theorem forwardPacket_tunnel (name : String) (packet : Bytes) (circuit : Circuit) :
    (circuit.forwardPacket name packet).2.tunnel.Alike circuit.tunnel := by
  have wrote : (Tunnel.transmit name packet circuit.countReceived.tunnelHandle).2.endpoint.Alike
      circuit.tunnel := by
    rw [Tunnel.transmit_eq]
    exact Handle.write_alike packet _
  unfold forwardPacket
  split
  · next handle made =>
      rw [made] at wrote
      exact wrote
  · next handle made =>
      rw [made] at wrote
      exact wrote
  · next errno handle made =>
      rw [made] at wrote
      exact wrote

theorem forward_tunnel (name : String) (input : Bytes) (circuit : Circuit) :
    (circuit.forward name input).2.tunnel.Alike circuit.tunnel := by
  fun_induction forward name input circuit with
  | case1 circuit => exact .refl _
  | case2 input circuit someInput violation decoder rest decoded => exact .refl _
  | case3 input circuit someInput decoder rest decoded ih => exact ih
  | case4 input circuit someInput packet decoder rest decoded errno after failed =>
      have forwarded := forwardPacket_tunnel name packet
        (circuit.update fun session => { session with decoder })
      rw [failed] at forwarded
      exact forwarded
  | case5 input circuit someInput packet decoder rest decoded after passed ih =>
      have forwarded := forwardPacket_tunnel name packet
        (circuit.update fun session => { session with decoder })
      rw [passed] at forwarded
      exact ih.trans forwarded

theorem serve_tunnel (name : String) (size budget : Nat) (circuit : Circuit) :
    (circuit.serve name size budget).2.tunnel.Alike circuit.tunnel := by
  induction budget generalizing circuit with
  | zero => exact .refl _
  | succ budget ih =>
      unfold serve
      split
      · exact .refl _
      · next bytes handle someBytes made =>
          have forwarded := forward_tunnel name bytes (circuit.overStream handle)
          split
          · next errno after failed =>
              rw [failed] at forwarded
              exact forwarded
          · next violation after broken =>
              rw [broken] at forwarded
              exact forwarded
          · next after passed =>
              rw [passed] at forwarded
              exact (ih after).trans forwarded
      · split <;> exact .refl _

theorem read_tunnel (name : String) (size budget : Nat) (circuit : Circuit) :
    (circuit.read name size budget).2.tunnel.Alike circuit.tunnel := by
  unfold read
  split
  · exact serve_tunnel name size budget circuit
  · exact .refl _

/-! ## Serving another client -/

theorem readStream_follows {label : Nat} {one two : Line} (alike : one.Alike label two)
    {size : Nat} {result : Except Errno Bytes} {handle : Handle}
    (made : one.handle.readStream size = (result, handle)) :
    ∃ other, two.handle.readStream size = (result, other) ∧
      (one.withHandle handle).Alike label (two.withHandle other) := by
  obtain ⟨session, stream, record⟩ := one
  obtain ⟨other, _, also⟩ := two
  obtain ⟨same, rfl, records⟩ := alike
  obtain ⟨n, rfl⟩ := Session.eq_of_bare same
  obtain ⟨last, interruptions, _, outcome⟩ :=
    Handle.readStream_spec size (.client session.label) stream
  simp only [Line.handle, outcome] at made ⊢
  cases made
  exact ⟨_, rfl, same, rfl, records.same _ (Handle.attempts_silent fun _ => rfl)⟩

theorem forward_unfolds (name : String) (input : Bytes) (circuit : Circuit) :
    circuit.forward name input =
      if input = [] then (.ok none, circuit)
      else
        match circuit.session.decoder.decode input with
        | ⟨.error violation, decoder, _⟩ =>
            (.ok (some violation), circuit.update fun session => { session with decoder })
        | ⟨.ok none, decoder, rest⟩ =>
            (circuit.update fun session => { session with decoder }).forward name rest
        | ⟨.ok (some packet), decoder, rest⟩ =>
            match (circuit.update fun session => { session with decoder }).forwardPacket name
                packet with
            | (.error errno, after) => (.error errno, after)
            | (.ok (), after) => after.forward name rest := by
  rw [forward]
  split
  · rfl
  · split <;> simp_all
    split <;> simp_all

variable {label : Nat} {one two : Circuit}

theorem label_serving (alike : one.toLine.Alike label two.toLine)
    (serving : server one.calls = some one.session.label)
    (also : server two.calls = some two.session.label) : server one.calls = server two.calls := by
  rw [serving, also, alike.label_eq]

/-- But for what the tunnel took, forwarding a packet only counts it. -/
theorem forwardPacket_bare (name : String) (packet : Bytes) (circuit : Circuit) :
    (circuit.forwardPacket name packet).2.session.bare = circuit.session.countReceived.bare := by
  obtain ⟨last, _, _, _, session, _⟩ := forwardPacket_spec name packet circuit
  rw [session]
  exact (apply_ite Session.bare _ _ _).trans (ite_self _)

/-- A packet of another client is offered in both runs, though perhaps taken in one only. -/
theorem forwardPacket_alike (name : String) (packet : Bytes)
    (alike : one.toLine.Alike label two.toLine)
    (serving : server one.calls = server two.calls) :
    (one.forwardPacket name packet).2.toLine.Alike label
      (two.forwardPacket name packet).2.toLine := by
  obtain ⟨last, interruptions, final, _, _, stream, calls, notices⟩ :=
    forwardPacket_spec name packet one
  obtain ⟨last', interruptions', final', _, _, stream', calls', notices'⟩ :=
    forwardPacket_spec name packet two
  constructor
  · obtain ⟨n, same⟩ := Session.eq_of_bare alike.session
    rw [forwardPacket_bare, forwardPacket_bare, same]
    rfl
  · rw [stream, stream', alike.stream]
  · -- The writes may end differently, after differently many interruptions, but each
    -- offers the packet once and for the same client.
    have swayed (result : Except Errno Nat) (count : Nat) :
        ∀ call ∈ Handle.attempts (Call.write .tunnel packet) result count,
          call.swayedBy label = true := by
      intro call member
      obtain ⟨_, _, rfl⟩ := History.attempts_writes packet result count call member
      rfl
    constructor
    · rw [calls, calls', History.besides_append, History.besides_append,
        History.besides_eq_nil (swayed _ _), History.besides_eq_nil (swayed _ _),
        alike.record.calls]
    · intro other different
      rw [calls, calls', History.offered_attempts final, History.offered_attempts final',
        alike.record.offered other different]
      rw [show server one.record.calls = server two.record.calls from serving]
    · intro id unnamed
      have earlier : named one.record.calls id ≠ some label := fun name =>
        unnamed (by rw [calls]; exact History.named_append _ name)
      rw [notices, notices', History.partings_append, History.partings_append,
        History.partings_plain id (Tunnel.remarks_plain _ _ _),
        History.partings_plain id (Tunnel.remarks_plain _ _ _), alike.record.partings id earlier]

theorem forward_alike {result other : Option Frame.Violation} (name : String) (input : Bytes)
    (alike : one.toLine.Alike label two.toLine)
    (serving : server one.calls = some one.session.label)
    (alsoServing : server two.calls = some two.session.label)
    (passed : (one.forward name input).1 = .ok result)
    (alsoPassed : (two.forward name input).1 = .ok other) :
    result = other ∧ (one.forward name input).2.toLine.Alike label
      (two.forward name input).2.toLine := by
  fun_induction forward name input one generalizing two with
  | case1 one =>
      rw [forward_unfolds] at alsoPassed ⊢
      cases passed
      cases alsoPassed
      exact ⟨rfl, alike⟩
  | case2 input one someInput violation decoder rest decoded =>
      have unfolded := forward_unfolds name input two
      rw [if_neg someInput, ← alike.decoder, decoded] at unfolded
      rw [unfolded] at alsoPassed ⊢
      cases passed
      cases alsoPassed
      exact ⟨rfl, alike.update (fun session => { session with decoder }) fun _ _ => rfl⟩
  | case3 input one someInput decoder rest decoded ih =>
      have unfolded := forward_unfolds name input two
      rw [if_neg someInput, ← alike.decoder, decoded] at unfolded
      rw [unfolded] at alsoPassed ⊢
      have kept := alike.update (fun session => { session with decoder }) fun _ _ => rfl
      exact ih kept serving alsoServing passed alsoPassed
  | case4 input one someInput packet decoder rest decoded errno after failed => cases passed
  | case5 input one someInput packet decoder rest decoded after forwarded ih =>
      -- The tunnel need not have taken the packet in both runs, but it failed in neither.
      let ready (circuit : Circuit) := circuit.update fun session => { session with decoder }
      have kept : (ready one).toLine.Alike label (ready two).toLine :=
        alike.update (fun session => { session with decoder }) fun _ _ => rfl
      have later := forwardPacket_alike name packet kept (label_serving kept serving alsoServing)
      obtain ⟨_, still⟩ := forwardPacket_serves name packet (ready one) serving
      obtain ⟨_, alsoStill⟩ := forwardPacket_serves name packet (ready two) alsoServing
      have unfolded := forward_unfolds name input two
      rw [if_neg someInput, ← alike.decoder, decoded] at unfolded
      change two.forward name input = match (ready two).forwardPacket name packet with
        | (.error errno, after) => (.error errno, after)
        | (.ok (), after) => after.forward name rest at unfolded
      rw [show (ready one).forwardPacket name packet = _ from forwarded] at later still
      generalize (ready two).forwardPacket name packet = outcome at unfolded later alsoStill
      obtain ⟨_ | _, otherAfter⟩ := outcome
      · rw [unfolded] at alsoPassed
        cases alsoPassed
      · rw [unfolded] at alsoPassed ⊢
        exact ih later still alsoStill passed alsoPassed

theorem serve_alike {disposition other : Disposition} (name : String) (size budget : Nat)
    (alike : one.toLine.Alike label two.toLine)
    (passed : (one.serve name size budget).1 = .ok disposition)
    (alsoPassed : (two.serve name size budget).1 = .ok other) :
    disposition = other ∧ (one.serve name size budget).2.toLine.Alike label
      (two.serve name size budget).2.toLine := by
  -- The client is sent the same in both runs, so the servings go read by read; only what the
  -- tunnel took of a packet may differ, and that does not stop either of them.
  induction budget generalizing one two with
  | zero =>
      cases passed
      cases alsoPassed
      exact ⟨rfl, alike.note rfl rfl⟩
  | succ budget ih =>
      obtain ⟨_, serving, _⟩ := overStream_serves size one
      obtain ⟨_, alsoServing, _⟩ := overStream_serves size two
      generalize made : one.toLine.handle.readStream size = read at serving
      obtain ⟨result, handle⟩ := read
      obtain ⟨otherHandle, alsoMade, kept⟩ := readStream_follows alike made
      rw [alsoMade] at alsoServing
      have kept : (one.overStream handle).toLine.Alike label (two.overStream otherHandle).toLine :=
        kept
      simp only [serve, made, alsoMade] at passed alsoPassed ⊢
      cases result with
      | error errno =>
          dsimp only at passed alsoPassed ⊢
          by_cases again : errno = .again
          · simp only [if_pos again] at passed alsoPassed ⊢
            cases passed
            cases alsoPassed
            exact ⟨rfl, kept⟩
          · simp only [if_neg again] at passed alsoPassed ⊢
            cases passed
            cases alsoPassed
            exact ⟨rfl, kept.disconnect⟩
      | ok bytes =>
          cases bytes with
          | nil =>
              cases passed
              cases alsoPassed
              exact ⟨rfl, kept.disconnect⟩
          | cons byte rest =>
              dsimp only at passed alsoPassed ⊢
              have forwarded {seen alsoSeen : Option Frame.Violation} :=
                @forward_alike label _ _ seen alsoSeen name (byte :: rest) kept serving alsoServing
              generalize (one.overStream handle).forward name (byte :: rest) = first
                at passed forwarded ⊢
              generalize (two.overStream otherHandle).forward name (byte :: rest) = second
                at alsoPassed forwarded ⊢
              obtain ⟨_ | seen, after⟩ := first
              · cases passed
              obtain ⟨_ | alsoSeen, alsoAfter⟩ := second
              · cases alsoPassed
              obtain ⟨rfl, later⟩ := forwarded rfl rfl
              cases seen with
              | none => exact ih later passed alsoPassed
              | some violation =>
                  cases passed
                  cases alsoPassed
                  exact ⟨rfl, later.disconnect⟩

theorem read_alike {disposition other : Disposition} (name : String) (size budget : Nat)
    (alike : one.toLine.Alike label two.toLine)
    (passed : (one.read name size budget).1 = .ok disposition)
    (alsoPassed : (two.read name size budget).1 = .ok other) :
    disposition = other ∧ (one.read name size budget).2.toLine.Alike label
      (two.read name size budget).2.toLine := by
  unfold read at passed alsoPassed ⊢
  rw [← alike.connected] at alsoPassed ⊢
  by_cases connected : one.session.connected = true
  · simp only [if_pos connected] at passed alsoPassed ⊢
    exact serve_alike name size budget alike passed alsoPassed
  · simp only [if_neg connected] at passed alsoPassed ⊢
    cases passed
    cases alsoPassed
    exact ⟨rfl, alike⟩

theorem read_besides (name : String) (size budget : Nat) (circuit : Circuit)
    (own : circuit.session.label = label) :
    (circuit.read name size budget).2.record.Alike label circuit.record := by
  have serves := read_serves name size budget circuit
  have receives := read_receives name size budget circuit
  obtain ⟨new, calls, made⟩ := receives.only
  obtain ⟨news, notices, plain⟩ := receives.notices
  apply Record.Alike.aside new news calls notices _ _ plain
  · intro call member
    rcases made call member with ⟨size, result, rfl⟩ | ⟨packet, result, rfl⟩
    · simp [Call.swayedBy, own]
    · rfl
  · intro other different
    exact serves.offered other (own ▸ different)

end Circuit
end PacketRelay
