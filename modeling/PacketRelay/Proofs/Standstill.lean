import PacketRelay.Proofs.Holding

/-!
Calls on one decoder, one after the other, whether they fail or not. Main statement:
the first failure is for good. Every later call fails the same way, and no byte of
its input is consumed.
-/

namespace PacketRelay.Frame.Decoder

def calls (decoder : Decoder) : List Bytes → List Decoded
  | [] => []
  | input :: later => decoder.decode input :: (decoder.decode input).decoder.calls later

def afterCalls (decoder : Decoder) : List Bytes → Decoder
  | [] => decoder
  | input :: later => (decoder.decode input).decoder.afterCalls later

/-- Standing at a complete header that announces an illegal length. -/
inductive Stalled (violation : Violation) : Decoder → Prop
  | header {header : Bytes} (length : header.length = headerLength)
      (illegal : checkLength (Bytes.toNat header) = .error violation) :
      Stalled violation (.header header)

/-- A decoder between calls: it waits for more, or it has failed. -/
inductive Settled (decoder : Decoder) : Prop
  | waiting (waits : decoder.Waiting) : Settled decoder
  | stalled {violation : Violation} (stalled : Stalled violation decoder) : Settled decoder

/-! ## One call -/

theorem Stalled.decode {violation : Violation} {decoder : Decoder}
    (stalled : Stalled violation decoder) (input : Bytes) :
    decoder.decode input = ⟨.error violation, decoder, input⟩ := by
  cases stalled with
  | header length illegal => simp [Decoder.decode, length, illegal]

theorem Stalled.buffered {violation : Violation} {decoder : Decoder}
    (stalled : Stalled violation decoder) : decoder.buffered = headerLength := by
  cases stalled with
  | header length illegal => exact length

/-- A call that fails leaves the header that it refuses. -/
theorem Settled.refused {decoder next : Decoder} {input rest : Bytes} {violation : Violation}
    (settled : decoder.Settled)
    (call : decoder.decode input = ⟨.error violation, next, rest⟩) : Stalled violation next := by
  cases settled with
  | waiting waits =>
      obtain ⟨header, rfl, length, illegal, _⟩ := decode_refused call waits
      exact .header length illegal
  | stalled before =>
      rw [before.decode input] at call
      cases call
      exact before

theorem Settled.decode {decoder : Decoder} (settled : decoder.Settled) (input : Bytes) :
    (decoder.decode input).decoder.Settled := by
  cases settled with
  | stalled before =>
      rw [before.decode input]
      exact .stalled before
  | waiting waits =>
      have outcome := decoder.decode_outcome input waits
      generalize call : decoder.decode input = decoded at outcome ⊢
      cases outcome with
      | waiting all waits => exact .waiting waits
      | complete split legal => exact .waiting fresh_waiting
      | violation split length illegal => exact .stalled (Settled.refused (.waiting waits) call)

/-! ## Any number of calls -/

theorem Settled.afterCalls {decoder : Decoder} (settled : decoder.Settled)
    (inputs : List Bytes) : (decoder.afterCalls inputs).Settled := by
  induction inputs generalizing decoder with
  | nil => exact settled
  | cons input later ih => exact ih (settled.decode input)

namespace Stalled

variable {violation : Violation} {decoder : Decoder}

theorem calls (stalled : Stalled violation decoder) (inputs : List Bytes) :
    decoder.calls inputs = inputs.map fun input => ⟨.error violation, decoder, input⟩ := by
  induction inputs with
  | nil => rfl
  | cons input later ih =>
      rw [Decoder.calls, stalled.decode input, ih, List.map_cons]

theorem afterCalls (stalled : Stalled violation decoder) (inputs : List Bytes) :
    decoder.afterCalls inputs = decoder := by
  induction inputs with
  | nil => rfl
  | cons input later ih =>
      rw [Decoder.afterCalls, stalled.decode input]
      exact ih

theorem drain (stalled : Stalled violation decoder) {piece : Bytes} (someInput : piece ≠ []) :
    decoder.drain piece = ⟨[], some violation, decoder, piece⟩ := by
  rw [Decoder.drain, dif_neg someInput]
  split
  · next call =>
      rw [stalled.decode piece] at call
      cases call
      rfl
  · next call =>
      rw [stalled.decode piece] at call
      cases call
  · next call =>
      rw [stalled.decode piece] at call
      cases call

theorem feed (stalled : Stalled violation decoder) (pieces : List Bytes) :
    (decoder.feed pieces).packets = [] ∧ (decoder.feed pieces).decoder = decoder ∧
      (decoder.feed pieces).rest = pieces.flatten := by
  induction pieces with
  | nil => exact ⟨rfl, rfl, rfl⟩
  | cons piece later ih =>
      by_cases empty : piece = []
      · subst empty
        have drained : decoder.drain [] = ⟨[], none, decoder, []⟩ := by
          rw [Decoder.drain, dif_pos rfl]
        simpa [Decoder.feed, drained] using ih
      · simp [Decoder.feed, stalled.drain empty]

end Stalled

/-- A failure is for good. Whatever calls were made on a decoder before one that
failed, each later call fails with the same violation, consumes nothing, finds
nothing and leaves the decoder as it is, with the four bytes of the header it has
refused. So no packet is found behind an illegal header, however the bytes come. -/
theorem refuses_for_good {earlier : List Bytes} {input rest : Bytes} {violation : Violation}
    {failed : Decoder}
    (refused : (fresh.afterCalls earlier).decode input = ⟨.error violation, failed, rest⟩) :
    failed.buffered = 4 ∧
      (∀ later : List Bytes,
        failed.calls later = later.map (fun input => ⟨.error violation, failed, input⟩) ∧
          failed.afterCalls later = failed) ∧
      ∀ pieces : List Bytes, (failed.feed pieces).packets = [] ∧
        (failed.feed pieces).decoder = failed ∧ (failed.feed pieces).rest = pieces.flatten := by
  have settled : (fresh.afterCalls earlier).Settled :=
    Settled.afterCalls (.waiting fresh_waiting) earlier
  have stalled : Stalled violation failed := settled.refused refused
  constructor
  · exact stalled.buffered
  · constructor
    · intro later
      exact ⟨stalled.calls later, stalled.afterCalls later⟩
    · exact stalled.feed

/-- After a packet and half a header, the other half announces 65536 bytes; a legal frame
behind it is not found. -/
theorem refuses_for_good_behind_header :
    let failed : Decoder := .header [0, 1, 0, 0]
    let frame : Bytes := [0, 0, 0, 1, 9]
    (fresh.afterCalls [[0, 0, 0, 1, 7], [0, 1]]).decode [0, 0, 5] =
        ⟨.error (.tooLong 65536), failed, [5]⟩ ∧
      failed.buffered = 4 ∧
      (∀ later : List Bytes,
        failed.calls later = later.map (fun input => ⟨.error (.tooLong 65536), failed, input⟩) ∧
          failed.afterCalls later = failed) ∧
      (failed.feed [frame, [], frame]).packets = [] := by
  intro failed frame
  have refused : (fresh.afterCalls [[0, 0, 0, 1, 7], [0, 1]]).decode [0, 0, 5] =
      ⟨.error (.tooLong 65536), failed, [5]⟩ := by
    simp [afterCalls, decode, fresh, fill, checkLength, headerLength, maxLength, Bytes.toNat,
      failed]
  obtain ⟨held, final, nothing⟩ := refuses_for_good refused
  exact ⟨refused, held, final, (nothing _).1⟩

end PacketRelay.Frame.Decoder
