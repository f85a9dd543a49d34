import PacketRelay.Proofs.Chunking

/-!
What a decoder holds, told by the calls made on it: the bytes consumed since the
last packet. Main statement: a call neither loses nor invents a byte, and what it
keeps is the beginning of a frame, as far as an incomplete header can tell.
-/

namespace PacketRelay.Frame

/-- A complete header whose length can stand in no frame. -/
inductive Offending : Bytes → Violation → Prop
  | empty {header : Bytes} (length : header.length = 4) (zero : Bytes.toNat header = 0) :
      Offending header .empty
  | tooLong {header : Bytes} (length : header.length = 4) (above : 65535 < Bytes.toNat header) :
      Offending header (.tooLong (Bytes.toNat header))

theorem Offending.of_check {header : Bytes} {violation : Violation}
    (length : header.length = headerLength)
    (illegal : checkLength (Bytes.toNat header) = .error violation) :
    Offending header violation := by
  unfold checkLength at illegal
  split at illegal
  · next zero =>
      cases illegal
      exact .empty length zero
  · split at illegal
    · next above =>
        cases illegal
        exact .tooLong length above
    · cases illegal

/-- The beginning of a frame that is not there yet. A header is read when all of it
is there: until then it may turn out too large. -/
inductive Unfinished (bytes : Bytes) : Prop
  | frame {packet frame : Bytes} (encoded : encode packet = .ok frame) (front : bytes <+: frame)
      (short : bytes.length < frame.length) : Unfinished bytes
  | overlong {header : Bytes} {length : Nat} (offends : Offending header (.tooLong length))
      (front : bytes <+: header) (short : bytes.length < header.length) : Unfinished bytes

theorem unfinished_header {seen : Bytes} (short : seen.length < headerLength) :
    Unfinished seen := by
  let header : Bytes := seen ++ (List.replicate (3 - seen.length) 0 ++ [1])
  have length : header.length = headerLength := by
    simp only [header, headerLength, List.length_append, List.length_replicate,
      List.length_singleton] at short ⊢
    omega
  have front : seen <+: header := List.prefix_append _ _
  have positive : 0 < Bytes.toNat header := by
    simp [header, Bytes.toNat, List.foldl_append]
  by_cases fits : Bytes.toNat header ≤ maxLength
  · have sized : (List.replicate (Bytes.toNat header) (0 : UInt8)).length =
        Bytes.toNat header := List.length_replicate
    have legal : Legal (List.replicate (Bytes.toNat header) 0) := by
      rw [Legal, sized]
      exact ⟨positive, fits⟩
    refine .frame (Decoder.encode_legal legal) ?_ ?_
    · rw [wrap, sized, Bytes.ofWord_toNat header length]
      exact front.trans (List.prefix_append _ _)
    · rw [length_wrap]
      omega
  · exact .overlong (.tooLong length (Nat.lt_of_not_le fits)) front (length ▸ short)

namespace Decoder

/-- A decoder that calls on a fresh one have led to, none of which failed, and the
bytes that they consumed of the frame in progress. -/
inductive Holding : Decoder → Bytes → Prop
  | fresh : Holding fresh []
  | waited {decoder next : Decoder} {held used rest : Bytes} (before : Holding decoder held)
      (call : decoder.decode (used ++ rest) = ⟨.ok none, next, rest⟩) :
      Holding next (held ++ used)
  | found {decoder next : Decoder} {held input packet rest : Bytes}
      (before : Holding decoder held)
      (call : decoder.decode input = ⟨.ok (some packet), next, rest⟩) : Holding next []

inductive Failed : Decoder → Prop
  | refused {decoder next : Decoder} {held input rest : Bytes} {violation : Violation}
      (before : Holding decoder held)
      (call : decoder.decode input = ⟨.error violation, next, rest⟩) : Failed next
  | still {decoder : Decoder} (before : Failed decoder) (input : Bytes) :
      Failed (decoder.decode input).decoder

inductive Exact (held input : Bytes) : Decoded → Prop
  | found {packet used rest : Bytes} {next : Decoder} (split : input = used ++ rest)
      (frame : encode packet = .ok (held ++ used)) (clear : Holding next []) :
      Exact held input ⟨.ok (some packet), next, rest⟩
  | waits {next : Decoder} (holds : Holding next (held ++ input))
      (unfinished : Unfinished (held ++ input)) : Exact held input ⟨.ok none, next, []⟩
  | refused {used rest : Bytes} {violation : Violation} {next : Decoder}
      (split : input = used ++ rest) (offends : Offending (held ++ used) violation) :
      Exact held input ⟨.error violation, next, rest⟩

/-- What feeding comes to, for a decoder that holds the first bytes of `before`. -/
inductive Restored (before : Bytes) : Drained → Prop
  | whole {packets frames : List Bytes} {next : Decoder} {held : Bytes}
      (encoded : packets.mapM encode = .ok frames) (holds : Holding next held)
      (whole : frames.flatten ++ held = before) : Restored before ⟨packets, none, next, []⟩
  | broken {packets frames : List Bytes} {header rest : Bytes} {violation : Violation}
      {next : Decoder} (encoded : packets.mapM encode = .ok frames)
      (offends : Offending header violation)
      (whole : frames.flatten ++ header ++ rest = before) :
      Restored before ⟨packets, some violation, next, rest⟩

/-! ## Bytes held -/

theorem fill_rest (missing : Nat) (seen input : Bytes) :
    (fill missing seen input).rest <:+ input := by
  rw [fill_eq]
  split
  · exact List.nil_suffix
  · exact List.drop_suffix missing input

/-- What a call has not consumed is the end of its input. -/
theorem decode_rest (decoder : Decoder) (input : Bytes) :
    (decoder.decode input).rest <:+ input := by
  cases decoder with
  | payload missing seen => exact fill_rest missing seen input
  | header seen =>
      have dropped : input.drop (headerLength - seen.length) <:+ input := List.drop_suffix _ _
      simp only [decode]
      split
      · exact dropped
      · split
        · exact dropped
        · exact (fill_rest _ _ _).trans dropped

namespace Holding

variable {decoder : Decoder} {held : Bytes}

theorem state (holding : Holding decoder held) : decoder.Waiting ∧ decoder.held = held := by
  induction holding with
  | fresh => exact ⟨fresh_waiting, rfl⟩
  | @waited decoder next held used rest before call ih =>
      obtain ⟨waits, same⟩ := ih
      have outcome := decoder.decode_outcome (used ++ rest) waits
      rw [call] at outcome
      cases outcome with
      | waiting all nextWaits => exact ⟨nextWaits, by rw [all, same, List.append_nil]⟩
  | @found decoder next held input packet rest before call ih =>
      have outcome := decoder.decode_outcome input ih.1
      rw [call] at outcome
      cases outcome with
      | complete => exact ⟨fresh_waiting, rfl⟩

theorem waiting (holding : Holding decoder held) : decoder.Waiting := holding.state.1

theorem held_eq (holding : Holding decoder held) : decoder.held = held := holding.state.2

end Holding

theorem decode_held {decoder : Decoder} (waits : decoder.Waiting) :
    fresh.decode decoder.held = ⟨.ok none, decoder, []⟩ := by
  cases decoder with
  | header seen =>
      have short : seen.length < headerLength := waits
      have all : seen.take headerLength = seen := List.take_of_length_le (Nat.le_of_lt short)
      have noneLeft : seen.drop headerLength = [] := List.drop_eq_nil_of_le (Nat.le_of_lt short)
      simp [fresh, decode, held, all, noneLeft, short]
  | payload missing seen =>
      obtain ⟨someMissing, bound⟩ := waits
      have size : missing + seen.length < 4294967296 := by
        simp only [maxLength] at bound
        omega
      have checked : checkLength (missing + seen.length) = .ok () :=
        (checkLength_eq_ok_iff _).mpr ⟨by omega, bound⟩
      have header : (held (.payload missing seen)).take headerLength =
          Bytes.ofWord (missing + seen.length) := by simp [held, headerLength, Bytes.ofWord]
      have body : (held (.payload missing seen)).drop headerLength = seen.reverse := by
        simp [held, headerLength, Bytes.ofWord]
      have complete : ¬ (Bytes.ofWord (missing + seen.length)).length < headerLength :=
        Nat.lt_irrefl 4
      have stillMissing : seen.reverse.length < missing + seen.length := by
        rw [List.length_reverse]
        omega
      simp only [fresh, decode, List.length_nil, Nat.sub_zero, List.nil_append, header, body,
        if_neg complete, Bytes.toNat_ofWord _ size, checked, fill_eq, if_pos stillMissing]
      simp

theorem Waiting.holding {decoder : Decoder} (waits : decoder.Waiting) :
    Holding decoder decoder.held := by
  have call : fresh.decode (decoder.held ++ []) = ⟨.ok none, decoder, []⟩ := by
    rw [List.append_nil]
    exact decode_held waits
  simpa using Holding.waited .fresh call

theorem Failed.header {decoder : Decoder} (failed : Failed decoder) :
    ∃ header, decoder = .header header ∧ header.length = headerLength ∧
      ∃ violation, checkLength (Bytes.toNat header) = .error violation := by
  induction failed with
  | refused before call =>
      obtain ⟨header, rfl, length, illegal, _⟩ := decode_refused call before.waiting
      exact ⟨header, rfl, length, _, illegal⟩
  | still before input ih =>
      obtain ⟨header, rfl, length, violation, illegal⟩ := ih
      exact ⟨header, by simp [decode, length, illegal], length, violation, illegal⟩

/-- No calls without failure lead where a failure leads. -/
theorem Holding.not_failed {decoder : Decoder} {held : Bytes} (holding : Holding decoder held) :
    ¬ Failed decoder := by
  intro failed
  obtain ⟨header, rfl, length, _⟩ := failed.header
  have short : header.length < headerLength := holding.waiting
  exact Nat.lt_irrefl _ (length ▸ short)

theorem Waiting.unfinished {decoder : Decoder} (waits : decoder.Waiting) :
    Unfinished decoder.held := by
  cases decoder with
  | header seen => exact unfinished_header waits
  | payload missing seen =>
      obtain ⟨someMissing, bound⟩ := waits
      let packet := seen.reverse ++ List.replicate missing (0 : UInt8)
      have length : packet.length = missing + seen.length := by
        simp only [packet, List.length_append, List.length_reverse, List.length_replicate]
        omega
      have legal : Legal packet := by
        rw [Legal, length]
        exact ⟨by omega, bound⟩
      refine .frame (encode_legal legal) ?_ ?_
      · rw [wrap, length, held]
        exact (List.prefix_append_right_inj _).mpr (List.prefix_append _ _)
      · rw [length_wrap, length, ← buffered_eq_length_held, buffered]
        omega

/-! ## Calls -/

theorem Holding.exact {decoder : Decoder} {held : Bytes} (holding : Holding decoder held)
    (input : Bytes) : Exact held input (decoder.decode input) := by
  have outcome := decoder.decode_outcome input holding.waiting
  obtain ⟨used, split⟩ := decoder.decode_rest input
  -- What stands before the rest is what was held and what was consumed.
  have cancel {front rest : Bytes} (same : held ++ input = front ++ rest)
      (ends : used ++ rest = input) : held ++ used = front := by
    rw [← ends, ← List.append_assoc] at same
    exact List.append_cancel_right same
  generalize made : decoder.decode input = decoded at outcome split ⊢
  cases outcome with
  | waiting all waits =>
      have holds := waits.holding
      have unfinished := waits.unfinished
      rw [all, holding.held_eq] at holds unfinished
      exact .waits holds unfinished
  | complete joined legal =>
      rw [holding.held_eq] at joined
      refine .found split.symm ?_ .fresh
      rw [cancel joined split]
      exact encode_legal legal
  | violation joined length illegal =>
      rw [holding.held_eq] at joined
      refine .refused split.symm ?_
      rw [cancel joined split]
      exact .of_check length illegal

theorem Reading.restored {before : Bytes} {drained : Drained} (reading : Reading before drained) :
    Restored before drained := by
  cases reading with
  | whole legal split waits =>
      refine .whole (mapM_encode _ legal) waits.holding ?_
      rw [split, List.flatMap_def]
  | broken legal split length illegal =>
      refine .broken (mapM_encode _ legal) (.of_check length illegal) ?_
      rw [split, List.flatMap_def, List.append_assoc]

/-- No byte is lost and none invented. A decoder of which no call has failed says how
many bytes it holds. A call that finds a packet has consumed the rest of its frame
and nothing more; one that waits holds all there was; one that fails has met the
end of an illegal header. So a stream in any pieces comes back from what was found
in it, what is held and what is left. -/
theorem decode_exact {decoder : Decoder} {held : Bytes} (holding : Holding decoder held) :
    decoder.buffered = held.length ∧ (∀ input, Exact held input (decoder.decode input)) ∧
      ∀ pieces : List Bytes, Restored (held ++ pieces.flatten) (decoder.feed pieces) := by
  refine ⟨?_, holding.exact, ?_⟩
  · rw [buffered_eq_length_held, holding.held_eq]
  · intro pieces
    have reading := decoder.feed_reading pieces holding.waiting
    rw [holding.held_eq] at reading
    exact reading.restored

/-- A header that comes in two pieces, of which the decoder holds the first. -/
theorem decode_exact_split_header :
    let decoder := (fresh.decode [0, 0, 0]).decoder
    Holding decoder [0, 0, 0] ∧ decoder.buffered = 3 ∧
      (∀ input, Exact [0, 0, 0] input (decoder.decode input)) ∧
      ∀ pieces : List Bytes, Restored ([0, 0, 0] ++ pieces.flatten) (decoder.feed pieces) := by
  intro decoder
  have call : fresh.decode ([0, 0, 0] ++ []) = ⟨.ok none, decoder, []⟩ := rfl
  have holding : Holding decoder [0, 0, 0] := .waited .fresh call
  exact ⟨holding, decode_exact holding⟩

/-- What a decoder holds need not begin a legal frame: a first byte of 255 is kept,
though only a header that is too large can begin with it. -/
theorem decode_keeps_overlong :
    Holding fresh [] ∧ fresh.decode [255] = ⟨.ok none, .header [255], []⟩ ∧
      ([] ++ [255] : Bytes) ≠ [] ∧
      ∀ packet frame, encode packet = .ok frame → ¬ ([] ++ [255] : Bytes) <+: frame := by
  refine ⟨.fresh, rfl, by decide, ?_⟩
  intro packet frame encoded front
  obtain ⟨⟨_, fits⟩, rfl⟩ := (encode_eq_ok_iff packet frame).mp encoded
  have zero : packet.length / 16777216 = 0 := by
    simp only [maxLength] at fits
    omega
  have first : (wrap packet).head? = some 0 := by simp [wrap, Bytes.ofWord, zero]
  obtain ⟨later, same⟩ := front
  rw [← same] at first
  exact absurd first (by simp)

end Decoder
end PacketRelay.Frame
