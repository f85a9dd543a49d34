import PacketRelay.Proofs.Parsing

/-!
A stream that comes in pieces. Main statements: however it is cut, feeding the
pieces to a fresh decoder comes to what parsing the whole comes to, and the
frames of legal packets are read back as these packets.
-/

namespace PacketRelay.Frame

def framed (bytes : Bytes) : Nat :=
  ((parse bytes).packets.flatMap wrap).length

/-- How many bytes a parse consumes: all of them, or those up to the end of an illegal header. -/
def consumed (bytes : Bytes) : Nat :=
  match (parse bytes).violation with
  | none => bytes.length
  | some _ => framed bytes + headerLength

/-- How many bytes a parse is left with: those behind the last complete frame, or
the illegal header. -/
def leftover (bytes : Bytes) : Nat :=
  match (parse bytes).violation with
  | none => bytes.length - framed bytes
  | some _ => headerLength

namespace Decoder

/-- Drains one piece after another. What is behind a violation stays where it is. -/
def feed (decoder : Decoder) : List Bytes → Drained
  | [] => ⟨[], none, decoder, []⟩
  | piece :: later =>
      let drained := decoder.drain piece
      match drained.violation with
      | some _ => { drained with rest := drained.rest ++ later.flatten }
      | none =>
          let fed := drained.decoder.feed later
          { fed with packets := drained.packets ++ fed.packets }

theorem buffered_eq_length_held (decoder : Decoder) : decoder.buffered = decoder.held.length := by
  cases decoder with
  | header seen => rfl
  | payload missing seen =>
      simp [buffered, held, headerLength, Bytes.length_ofWord]

/-- The decoder keeps the header that it refuses. -/
theorem decode_refused {decoder next : Decoder} {input rest : Bytes} {violation : Violation}
    (refused : decoder.decode input = ⟨.error violation, next, rest⟩) (waits : decoder.Waiting) :
    ∃ header, next = .header header ∧ header.length = headerLength ∧
      checkLength (Bytes.toNat header) = .error violation ∧
      decoder.held ++ input = header ++ rest := by
  cases decoder with
  | payload missing seen =>
      have filled : fill missing seen input = ⟨.error violation, next, rest⟩ := refused
      rw [fill_eq] at filled
      split at filled <;> cases filled
  | header seen =>
      have waits : seen.length < headerLength := waits
      simp only [decode] at refused
      split at refused
      · cases refused
      · next long =>
          split at refused
          · next found illegal =>
              cases refused
              refine ⟨_, rfl, ?_, illegal, ?_⟩
              · simp only [List.length_append, List.length_take] at long ⊢
                omega
              · simp [held]
          · next legal =>
              rw [fill_eq] at refused
              split at refused <;> cases refused

inductive Reading (before : Bytes) : Drained → Prop
  | whole {packets : List Bytes} {next : Decoder} (legal : ∀ packet ∈ packets, Legal packet)
      (split : before = packets.flatMap wrap ++ next.held) (waits : next.Waiting) :
      Reading before ⟨packets, none, next, []⟩
  | broken {packets : List Bytes} {header rest : Bytes} {violation : Violation}
      (legal : ∀ packet ∈ packets, Legal packet)
      (split : before = packets.flatMap wrap ++ (header ++ rest))
      (length : header.length = headerLength)
      (illegal : checkLength (Bytes.toNat header) = .error violation) :
      Reading before ⟨packets, some violation, .header header, rest⟩

namespace Reading

variable {before : Bytes} {drained : Drained}

theorem after {packets : List Bytes} (legal : ∀ packet ∈ packets, Legal packet)
    (reading : Reading before drained) :
    Reading (packets.flatMap wrap ++ before)
      { drained with packets := packets ++ drained.packets } := by
  cases reading with
  | whole laterLegal split waits =>
      refine .whole (fun packet => ?_) ?_ waits
      · rw [List.mem_append]
        exact fun member => member.elim (legal packet) (laterLegal packet)
      · rw [split, List.flatMap_append, List.append_assoc]
  | broken laterLegal split length illegal =>
      refine .broken (fun packet => ?_) ?_ length illegal
      · rw [List.mem_append]
        exact fun member => member.elim (legal packet) (laterLegal packet)
      · rw [split, List.flatMap_append, List.append_assoc]

theorem parsed (reading : Reading before drained) :
    parse before = { packets := drained.packets, violation := drained.violation } := by
  cases reading with
  | whole legal split waits =>
      rw [split, parse_append _ _ legal, parse_held _ waits, List.append_nil]
  | broken legal split length illegal =>
      rw [split, parse_append _ _ legal, parse_violation _ _ length illegal, List.append_nil]

theorem consumed (reading : Reading before drained) :
    consumed before + drained.rest.length = before.length := by
  have parsed := reading.parsed
  cases reading with
  | whole => simp [Frame.consumed, parsed]
  | broken legal split length illegal =>
      have whole := congrArg List.length split
      simp only [List.length_append] at whole
      simp only [Frame.consumed, framed, parsed]
      omega

theorem leftover (reading : Reading before drained) :
    leftover before = drained.decoder.buffered := by
  have parsed := reading.parsed
  rw [buffered_eq_length_held]
  cases reading with
  | whole legal split waits =>
      have whole := congrArg List.length split
      rw [List.length_append] at whole
      simp only [Frame.leftover, framed, parsed]
      omega
  | broken legal split length illegal =>
      simpa [Frame.leftover, parsed, held] using length.symm

end Reading

theorem drain_unfolds (decoder : Decoder) (input : Bytes) :
    decoder.drain input =
      if input = [] then ⟨[], none, decoder, []⟩
      else
        match decoder.decode input with
        | ⟨.error violation, next, rest⟩ => ⟨[], some violation, next, rest⟩
        | ⟨.ok none, next, rest⟩ => next.drain rest
        | ⟨.ok (some packet), next, rest⟩ =>
            { next.drain rest with packets := packet :: (next.drain rest).packets } := by
  rw [drain]
  split
  · rfl
  · split <;> simp_all only

theorem drain_reading (decoder : Decoder) (input : Bytes) (waits : decoder.Waiting) :
    Reading (decoder.held ++ input) (decoder.drain input) := by
  fun_induction drain decoder input with
  | case1 decoder => exact .whole (by simp) (by simp) waits
  | case2 decoder input someInput violation next rest refused =>
      obtain ⟨header, rfl, length, illegal, split⟩ := decode_refused refused waits
      exact .broken (by simp) (by simpa using split) length illegal
  | case3 decoder input someInput next rest decoded ih =>
      have outcome := decoder.decode_outcome input waits
      rw [decoded] at outcome
      cases outcome with
      | waiting all nextWaits =>
          have later := ih nextWaits
          rwa [List.append_nil, all] at later
  | case4 decoder input someInput packet next rest decoded later ih =>
      have outcome := decoder.decode_outcome input waits
      rw [decoded] at outcome
      cases outcome with
      | complete split legal =>
          have allLegal : ∀ other ∈ [packet], Legal other := by simpa using legal
          have found := (ih fresh_waiting).after allLegal
          rw [split]
          simpa [later, fresh, held] using found

theorem feed_reading (decoder : Decoder) (pieces : List Bytes) (waits : decoder.Waiting) :
    Reading (decoder.held ++ pieces.flatten) (decoder.feed pieces) := by
  induction pieces generalizing decoder with
  | nil => exact .whole (by simp) (by simp) waits
  | cons piece later ih =>
      have drained := decoder.drain_reading piece waits
      rw [List.flatten_cons, ← List.append_assoc]
      unfold feed
      generalize decoder.drain piece = first at drained ⊢
      generalize decoder.held ++ piece = start at drained ⊢
      cases drained with
      | whole legal split nextWaits =>
          rw [split, List.append_assoc]
          exact (ih _ nextWaits).after legal
      | broken legal split length illegal =>
          refine .broken legal ?_ length illegal
          rw [split]
          simp only [List.append_assoc]

/-- A stream in pieces is read as a whole: the same packets, the same violation
or none, as many bytes consumed and as many held as a parse of the whole leaves. -/
theorem feed_pieces (pieces : List Bytes) :
    let fed := fresh.feed pieces
    let stream := pieces.flatten
    fed.packets = (parse stream).packets ∧ fed.violation = (parse stream).violation ∧
      consumed stream + fed.rest.length = stream.length ∧
      fed.decoder.buffered = leftover stream := by
  intro fed stream
  have reading : Reading stream fed := fresh.feed_reading pieces fresh_waiting
  have parsed := reading.parsed
  exact ⟨congrArg Parsed.packets parsed.symm, congrArg Parsed.violation parsed.symm,
    reading.consumed, reading.leftover.symm⟩

theorem encode_legal {packet : Bytes} (legal : Legal packet) : encode packet = .ok (wrap packet) :=
  (encode_eq_ok_iff packet (wrap packet)).mpr ⟨legal, rfl⟩

theorem mapM_encode (packets : List Bytes) (legal : ∀ packet ∈ packets, Legal packet) :
    packets.mapM encode = .ok (packets.map wrap) := by
  induction packets with
  | nil => rfl
  | cons packet later ih =>
      rw [List.mapM_cons, encode_legal (legal packet List.mem_cons_self),
        ih fun other member => legal other (List.mem_cons_of_mem packet member)]
      rfl

/-- Packets that frames can carry come back from their frames, however these are
cut into pieces, and nothing is left over. -/
theorem feed_frames (packets : List Bytes)
    (legal : ∀ packet ∈ packets, 0 < packet.length ∧ packet.length ≤ maxLength) :
    ∃ frames, packets.mapM encode = .ok frames ∧
      ∀ pieces : List Bytes, pieces.flatten = frames.flatten →
        let fed := fresh.feed pieces
        fed.packets = packets ∧ fed.violation = none ∧ fed.rest = [] ∧
          fed.decoder.buffered = 0 := by
  refine ⟨packets.map wrap, mapM_encode packets legal, ?_⟩
  intro pieces same fed
  have reading : Reading pieces.flatten fed := fresh.feed_reading pieces fresh_waiting
  have stream : pieces.flatten = packets.flatMap wrap ++ fresh.held := by
    rw [same, ← List.flatMap_def]
    exact (List.append_nil _).symm
  -- The frames can be read in one way only, and they leave nothing.
  have exact : Reading pieces.flatten ⟨packets, none, fresh, []⟩ :=
    .whole legal stream fresh_waiting
  have parsed := reading.parsed.symm.trans exact.parsed
  have used := reading.consumed.trans exact.consumed.symm
  refine ⟨congrArg Parsed.packets parsed, congrArg Parsed.violation parsed, ?_,
    reading.leftover.symm.trans exact.leftover⟩
  exact List.length_eq_zero_iff.mp (Nat.add_left_cancel used)

/-- Two frames in pieces: a cut inside the first header, an empty piece, and a
piece with the end of one frame and the beginning of the other. -/
theorem feed_two_frames :
    let packets : List Bytes := [[7], [8, 9]]
    let pieces : List Bytes := [[0, 0], [], [0, 1, 7, 0, 0], [0, 2, 8], [9]]
    (∀ packet ∈ packets, 0 < packet.length ∧ packet.length ≤ maxLength) ∧
      pieces.flatten = (packets.map wrap).flatten ∧
      ∃ frames, packets.mapM encode = .ok frames ∧
        ∀ pieces : List Bytes, pieces.flatten = frames.flatten →
          let fed := fresh.feed pieces
          fed.packets = packets ∧ fed.violation = none ∧ fed.rest = [] ∧
            fed.decoder.buffered = 0 := by
  intro packets pieces
  have legal : ∀ packet ∈ packets, 0 < packet.length ∧ packet.length ≤ maxLength := by decide
  exact ⟨legal, by decide, feed_frames packets legal⟩

end Decoder
end PacketRelay.Frame
