import PacketRelay.Proofs.Storing
import PacketRelay.Session.Service

/-!
Bounds of a decoder and of the loops around it. Main statement: whatever calls were
made, no part of the storage is filled beyond its size, the next call meets no fault,
and calls on one input until nothing is left of it come to an end.
-/

namespace PacketRelay.Frame

namespace Decoder

/-! ## One call -/

theorem Waiting.decode {decoder next : Decoder} {input rest : Bytes} {found : Option Bytes}
    (waits : decoder.Waiting) (call : decoder.decode input = ⟨.ok found, next, rest⟩) :
    next.Waiting := by
  have outcome := decoder.decode_outcome input waits
  rw [call] at outcome
  cases outcome with
  | waiting all nextWaits => exact nextWaits
  | complete split legal => exact fresh_waiting

/-- Only a call that fails keeps a decoder from waiting. -/
theorem Waiting.afterCalls {decoder : Decoder} (waits : decoder.Waiting) (inputs : List Bytes) :
    (decoder.afterCalls inputs).Waiting ∨
      ∃ decoded ∈ decoder.calls inputs, ∃ violation, decoded.outcome = .error violation := by
  induction inputs generalizing decoder with
  | nil => exact .inl waits
  | cons input later ih =>
      cases made : (decoder.decode input).outcome with
      | error violation => exact .inr ⟨_, List.mem_cons_self, violation, made⟩
      | ok found =>
          have nextWaits : (decoder.decode input).decoder.Waiting :=
            waits.decode (congrArg (Decoded.mk · _ _) made)
          rcases ih nextWaits with still | ⟨decoded, member, failed⟩
          · exact .inl still
          · exact .inr ⟨decoded, List.mem_cons_of_mem _ member, failed⟩

theorem Settled.overdue {decoder : Decoder} (settled : decoder.Settled) : decoder.overdue = 0 := by
  cases settled with
  | stalled stalled =>
      cases stalled with
      | header length illegal => rfl
  | waiting waits =>
      match decoder, waits with
      | .header _, _ => rfl
      | .payload (_ + 1) _, _ => rfl

/-- A call on some input fails or consumes some of it. -/
theorem Settled.progress {decoder : Decoder} (settled : decoder.Settled) {input : Bytes}
    (someInput : input ≠ []) :
    (∃ violation, (decoder.decode input).outcome = .error violation) ∨
      (decoder.decode input).rest.length < input.length := by
  cases made : (decoder.decode input).outcome with
  | error violation => exact .inl ⟨violation, rfl⟩
  | ok found =>
      have progress := decode_progress decoder input someInput made
      rw [settled.overdue] at progress
      right
      omega

theorem Settled.packet {decoder next : Decoder} {input packet rest : Bytes}
    (settled : decoder.Settled)
    (call : decoder.decode input = ⟨.ok (some packet), next, rest⟩) :
    Legal packet ∧ decoder.held ++ input = wrap packet ++ rest := by
  cases settled with
  | stalled stalled =>
      rw [stalled.decode input] at call
      cases call
  | waiting waits =>
      have outcome := decoder.decode_outcome input waits
      rw [call] at outcome
      cases outcome with
      | complete split legal => exact ⟨legal, split⟩

theorem length_of_fill {missing : Nat} {seen input packet : Bytes}
    (found : (fill missing seen input).outcome = .ok (some packet)) :
    packet.length = seen.length + missing := by
  rw [fill_eq] at found
  split at found
  · cases found
  · next enough =>
      cases found
      rw [List.length_append, List.length_reverse, List.length_take]
      omega

/-! ## Loops over calls -/

/-- Calls one after the other on what is left of an input, as long as there is some and
none of them fails. -/
inductive Consumes : Decoder → Bytes → Nat → Decoder → Bytes → Prop
  | still {decoder : Decoder} {input : Bytes} : Consumes decoder input 0 decoder input
  | call {decoder between last : Decoder} {input rest left : Bytes} {found : Option Bytes}
      {calls : Nat} (someInput : input ≠ [])
      (made : decoder.decode input = ⟨.ok found, between, rest⟩)
      (later : Consumes between rest calls last left) :
      Consumes decoder input (calls + 1) last left

/-- Why a loop makes no more calls: nothing is left, the next one fails, or the packet
that the last one found was refused by the tunnel. -/
inductive Stops (last : Decoder) (left : Bytes) :
    Except Errno (Option Violation) → Decoder → Prop
  | empty (noneLeft : left = []) : Stops last left (.ok none) last
  | refused {violation : Violation} {next : Decoder} {rest : Bytes} (someLeft : left ≠ [])
      (made : last.decode left = ⟨.error violation, next, rest⟩) :
      Stops last left (.ok (some violation)) next
  | failed {errno : Errno} : Stops last left (.error errno) last

theorem Consumes.bounded {decoder last : Decoder} {input left : Bytes} {calls : Nat}
    (consumes : Consumes decoder input calls last left) (settled : decoder.Settled) :
    calls + left.length ≤ input.length := by
  induction consumes with
  | still => exact Nat.le_of_eq (Nat.zero_add _)
  | @call decoder between last input rest left found calls someInput made later ih =>
      have nextSettled := settled.decode input
      have progress := settled.progress someInput
      rw [made] at nextSettled progress
      have shorter : rest.length < input.length :=
        progress.resolve_left fun ⟨violation, failed⟩ => by cases failed
      have bounded := ih nextSettled
      omega

theorem drain_stops (decoder : Decoder) (input : Bytes) :
    ∃ calls last left, Consumes decoder input calls last left ∧
      Stops last left (.ok (decoder.drain input).violation) (decoder.drain input).decoder := by
  fun_induction drain decoder input with
  | case1 decoder => exact ⟨0, decoder, [], .still, .empty rfl⟩
  | case2 decoder input someInput violation next rest refused =>
      exact ⟨0, decoder, input, .still, .refused someInput refused⟩
  | case3 decoder input someInput next rest decoded ih =>
      obtain ⟨calls, last, left, consumes, stops⟩ := ih
      exact ⟨calls + 1, last, left, .call someInput decoded consumes, stops⟩
  | case4 decoder input someInput packet next rest decoded later ih =>
      obtain ⟨calls, last, left, consumes, stops⟩ := ih
      exact ⟨calls + 1, last, left, .call someInput decoded consumes, stops⟩

end Decoder
end PacketRelay.Frame

namespace PacketRelay

open PacketRelay.Frame.Decoder (Consumes Stops)

theorem Circuit.forward_stops (name : String) (input : Bytes) (circuit : Circuit) :
    ∃ calls last left, Consumes circuit.session.decoder input calls last left ∧
      Stops last left (circuit.forward name input).1
        (circuit.forward name input).2.session.decoder := by
  fun_induction forward name input circuit with
  | case1 circuit => exact ⟨0, _, [], .still, .empty rfl⟩
  | case2 input circuit someInput violation decoder rest decoded =>
      exact ⟨0, _, input, .still, .refused someInput decoded⟩
  | case3 input circuit someInput decoder rest decoded ih =>
      obtain ⟨calls, last, left, consumes, stops⟩ := ih
      exact ⟨calls + 1, last, left, .call someInput decoded consumes, stops⟩
  | case4 input circuit someInput packet decoder rest decoded errno after forwarded =>
      have kept := decoder_of_forwarded forwarded
      refine ⟨1, decoder, rest, .call someInput decoded .still, ?_⟩
      rw [kept]
      exact .failed
  | case5 input circuit someInput packet decoder rest decoded after forwarded ih =>
      have kept := decoder_of_forwarded forwarded
      obtain ⟨calls, last, left, consumes, stops⟩ := ih
      rw [kept] at consumes
      exact ⟨calls + 1, last, left, .call someInput decoded consumes, stops⟩

namespace Frame

/-- Loops over the calls on one input come to an end: they make no more calls than there
are bytes, be it to drain the input or to forward what is found in it. -/
structure Decoder.Finishes (decoder : Decoder) (input : Bytes) : Prop where
  bounded : ∀ calls last left, Consumes decoder input calls last left →
    calls + left.length ≤ input.length
  drained : ∃ calls last left, Consumes decoder input calls last left ∧
    Stops last left (.ok (decoder.drain input).violation) (decoder.drain input).decoder
  forwarded : ∀ (name : String) (circuit : Circuit), circuit.session.decoder = decoder →
    ∃ calls last left, Consumes decoder input calls last left ∧
      Stops last left (circuit.forward name input).1
        (circuit.forward name input).2.session.decoder

theorem Decoder.Settled.finishes {decoder : Decoder} (settled : decoder.Settled) (input : Bytes) :
    decoder.Finishes input where
  bounded _ _ _ consumes := consumes.bounded settled
  drained := decoder.drain_stops input
  forwarded name circuit same := by
    rw [← same]
    exact circuit.forward_stops name input

namespace Storage

/-! ## What is filled -/

/-- How far a storage is filled after the calls made. A header that is complete is one
that a call has refused. -/
structure Within (made : List Ended) (storage : Storage) : Prop where
  header : storage.stage = .header → storage.filled ≤ 4 ∧
    (storage.filled = 4 → ∃ ended ∈ made, ∃ violation, ended.outcome = .error violation)
  payload : ∀ length, storage.stage = .payload length → (1 ≤ length ∧ length ≤ 65535) ∧
    storage.filled = 0 ∧ storage.payload.length < length

/-- What a call on a storage comes to, beside what it finds. The payload of a packet is
as long as its header has announced. -/
structure Proper (storage : Storage) (input : Bytes) (ended : Ended) : Prop where
  kept : ended.decoded = storage.decoder.decode input
  turns : ended.turns ≤ 2
  packet : ∀ packet, ended.outcome = .ok (some packet) → Legal packet ∧
    storage.decoder.held ++ input = wrap packet ++ ended.rest
  announced : ∀ length packet, storage.stage = .payload length →
    ended.outcome = .ok (some packet) → packet.length = length
  rest : ended.rest <:+ input
  progress : input ≠ [] → (∃ violation, ended.outcome = .error violation) ∨
    ended.rest.length < input.length

theorem Aligned.announced {storage : Storage} {length : Nat} {input packet : Bytes}
    (aligned : storage.Aligned) (stage : storage.stage = .payload length)
    (found : (storage.decoder.decode input).outcome = .ok (some packet)) :
    packet.length = length := by
  cases aligned with
  | header => cases stage
  | @payload _ header payload short =>
      cases stage
      have complete : packet.length = payload.reverse.length + (length - payload.length) :=
        Decoder.length_of_fill found
      rw [List.length_reverse] at complete
      omega

theorem Aligned.proper {storage : Storage} (aligned : storage.Aligned)
    (settled : storage.decoder.Settled) (input : Bytes) :
    ∃ ended, storage.decode input = .ok ended ∧ Proper storage input ended := by
  obtain ⟨ended, made, turns, _, same⟩ := aligned.decode input
  have rest := storage.decoder.decode_rest input
  have announced (length : Nat) (packet : Bytes) (stage : storage.stage = .payload length) :
      (storage.decoder.decode input).outcome = .ok (some packet) → packet.length = length :=
    aligned.announced stage
  have progress := fun someInput : input ≠ [] => settled.progress someInput
  rw [← same] at announced progress rest
  refine ⟨ended, made, same, turns, ?_, announced, rest, progress⟩
  intro packet found
  apply settled.packet
  rw [← same, Ended.decoded, found]

theorem Aligned.within {storage : Storage} {made : List Ended} (aligned : storage.Aligned)
    (settled : storage.decoder.Settled)
    (waits : storage.decoder.Waiting ∨
      ∃ ended ∈ made, ∃ violation, ended.outcome = .error violation) : Within made storage := by
  cases aligned with
  | @header header filled within =>
      refine ⟨fun _ => ⟨within, fun full => ?_⟩, fun _ payload => (by cases payload)⟩
      rcases waits with waits | failed
      · have short : (header.bytes.take filled).length < headerLength := waits
        have full : filled = 4 := full
        rw [header.length_take within, full] at short
        exact absurd short (Nat.lt_irrefl 4)
      · exact failed
  | @payload length header payload short =>
      refine ⟨fun header => (by cases header), ?_⟩
      rintro _ ⟨⟩
      cases settled with
      | stalled stalled => cases stalled
      | waiting waits =>
          have bound : length - payload.length + payload.reverse.length ≤ 65535 := waits.2
          rw [List.length_reverse] at bound
          exact ⟨⟨by omega, by omega⟩, rfl, short⟩

/-- Whatever calls are made on a fresh storage, none meets a fault: no difference falls
below zero and no place is out of range. They come to what they come to on a fresh
decoder, and leave nothing filled beyond its size. The next call takes two turns at most
and fails or consumes something, so that every loop over the calls on one input ends. -/
theorem calls_in_bounds (inputs : List Bytes) :
    ∃ made last, fresh.calls inputs = .ok (made, last) ∧
      made.map Ended.decoded = Decoder.fresh.calls inputs ∧
      last.decoder = Decoder.fresh.afterCalls inputs ∧
      last.buffered = last.decoder.buffered ∧ Within made last ∧
      ∀ input, (∃ ended, last.decode input = .ok ended ∧ Proper last input ended) ∧
        last.decoder.Finishes input := by
  obtain ⟨made, last, run, aligned, alike, after⟩ := fresh_aligned.calls inputs
  rw [decoder_fresh] at alike after
  have settled : last.decoder.Settled := by
    rw [after]
    exact Decoder.Settled.afterCalls (.waiting Decoder.fresh_waiting) inputs
  have waits : last.decoder.Waiting ∨
      ∃ ended ∈ made, ∃ violation, ended.outcome = .error violation := by
    rcases Decoder.fresh_waiting.afterCalls inputs with still | ⟨decoded, member, failed⟩
    · exact .inl (after ▸ still)
    · rw [← alike] at member
      obtain ⟨ended, inside, rfl⟩ := List.mem_map.mp member
      exact .inr ⟨ended, inside, failed⟩
  refine ⟨made, last, run, alike, after, aligned.buffered, aligned.within settled waits, ?_⟩
  intro input
  exact ⟨aligned.proper settled input, settled.finishes input⟩

end Storage
end Frame
end PacketRelay
