import PacketRelay.Frame.Storage
import PacketRelay.Proofs.Standstill

/-!
The decoder kept in memory. Main statement: between calls its parts are aligned, and
then a call meets no fault, takes two turns at most and comes to what it comes to on
the decoder that is kept.
-/

namespace PacketRelay.Frame.Storage

/-! ## Differences and places that exist -/

theorem difference_of_le {whole part : Nat} (within : part ≤ whole) :
    difference whole part = .ok (whole - part) :=
  if_pos within

theorem places_front (bytes : Bytes) {count : Nat} (within : count ≤ bytes.length) :
    places bytes 0 count = .ok (bytes.take count) := by
  rw [places, if_pos ⟨Nat.zero_le count, within⟩, List.drop_zero]

theorem places_back (bytes : Bytes) {count : Nat} (within : count ≤ bytes.length) :
    places bytes count bytes.length = .ok (bytes.drop count) := by
  rw [places, if_pos ⟨within, Nat.le_refl _⟩, List.take_length]

theorem Header.length_take (header : Header) {filled : Nat} (within : filled ≤ headerLength) :
    (header.bytes.take filled).length = filled := by
  rw [List.length_take, header.complete]
  exact Nat.min_eq_left within

theorem Header.copy_behind (header : Header) (filled : Nat) (part : Bytes)
    (within : filled + part.length ≤ headerLength) :
    ∃ next : Header, header.copy filled (filled + part.length) part = .ok next ∧
      next.bytes.take (filled + part.length) = header.bytes.take filled ++ part := by
  have range : filled ≤ filled + part.length ∧ filled + part.length ≤ headerLength :=
    ⟨Nat.le_add_right _ _, within⟩
  have equal : part.length = filled + part.length - filled := (Nat.add_sub_cancel_left _ _).symm
  refine ⟨_, by rw [copy, dif_pos range, dif_pos equal], ?_⟩
  apply List.take_left'
  rw [List.length_append, header.length_take (Nat.le_trans range.1 range.2)]

/-! ## One turn -/

inductive Aligned : Storage → Prop
  | header {header : Header} {filled : Nat} (within : filled ≤ headerLength) :
      Aligned ⟨.header, header, filled, []⟩
  | payload {length : Nat} {header : Header} {payload : Bytes} (short : payload.length < length) :
      Aligned ⟨.payload length, header, 0, payload⟩

theorem Aligned.buffered {storage : Storage} (aligned : storage.Aligned) :
    storage.buffered = storage.decoder.buffered := by
  cases aligned with
  | @header header filled within => exact (header.length_take within).symm
  | payload short => exact congrArg (headerLength + ·) List.length_reverse.symm

theorem takePayload_short (storage : Storage) (length : Nat) (input : Bytes)
    (short : storage.payload.length < length) :
    let payload := storage.payload ++ input.take (length - storage.payload.length)
    let rest := input.drop (length - storage.payload.length)
    storage.takePayload length input =
      .ok (if payload.length < length then .ended (.ok none) { storage with payload } rest
        else .ended (.ok (some payload))
          { storage with stage := .header, payload := [] } rest) := by
  have there : min (length - storage.payload.length) input.length ≤ input.length :=
    Nat.min_le_right _ _
  simp only [takePayload, difference_of_le (Nat.le_of_lt short), places_front input there,
    places_back input there, bind, Except.bind, ← List.take_eq_take_min, ← List.drop_eq_drop_min]
  split <;> rfl

theorem takeHeader_within (header : Header) (filled : Nat) (input : Bytes)
    (within : filled ≤ headerLength) :
    let seen := header.bytes.take filled ++ input.take (headerLength - filled)
    let rest := input.drop (headerLength - filled)
    ∃ next : Header, next.bytes.take seen.length = seen ∧
      takeHeader ⟨.header, header, filled, []⟩ input =
        .ok (if seen.length < headerLength then
            .ended (.ok none) ⟨.header, next, seen.length, []⟩ rest
          else
            match checkLength (Bytes.toNat seen) with
            | .error violation =>
                .ended (.error violation) ⟨.header, next, seen.length, []⟩ rest
            | .ok () => .again ⟨.payload (Bytes.toNat seen), next, 0, []⟩ rest) := by
  intro seen rest
  have there : min (headerLength - filled) input.length ≤ input.length := Nat.min_le_right _ _
  have count : (input.take (headerLength - filled)).length =
      min (headerLength - filled) input.length := List.length_take
  have length : seen.length = filled + min (headerLength - filled) input.length := by
    rw [List.length_append, header.length_take within, count]
  obtain ⟨next, copied, front⟩ :=
    header.copy_behind filled (input.take (headerLength - filled)) (by omega)
  rw [count, ← length] at copied front
  refine ⟨next, front, ?_⟩
  simp only [takeHeader, difference_of_le within, places_front input there,
    places_back input there, bind, Except.bind, ← List.take_eq_take_min,
    ← List.drop_eq_drop_min, ← length, copied]
  split
  · rfl
  · next long =>
      -- Once all its places are filled, the header is what has been seen.
      have all : next.bytes.length ≤ seen.length := next.complete ▸ Nat.le_of_not_lt long
      have full : next.bytes = seen := (List.take_of_length_le all).symm.trans front
      rw [full]
      cases checkLength (Bytes.toNat seen) with
      | error violation => rfl
      | ok _ => rfl

-- A header that was refused stays complete. The next turn copies no bytes, to no places.
example : turn ⟨.header, ⟨[0, 1, 0, 0], rfl⟩, 4, []⟩ [7] =
    .ok (.ended (.error (.tooLong 65536)) ⟨.header, ⟨[0, 1, 0, 0], rfl⟩, 4, []⟩ [7]) := by cbv

/-! ## One call -/

theorem decode_of_ended {storage next : Storage} {input rest : Bytes}
    {outcome : Except Violation (Option Bytes)}
    (turned : storage.turn input = .ok (.ended outcome next rest)) :
    storage.decode input = .ok ⟨outcome, next, rest, 1⟩ := by
  rw [decode]
  split <;> simp_all

theorem decode_of_again {storage next : Storage} {input rest : Bytes} {ended : Ended}
    (turned : storage.turn input = .ok (.again next rest)) (later : next.decode rest = .ok ended) :
    storage.decode input = .ok { ended with turns := ended.turns + 1 } := by
  rw [decode]
  split
  · simp_all
  · simp_all
  · simp_all [Except.map]

theorem decode_payload {length : Nat} {payload : Bytes} (header : Header) (input : Bytes)
    (short : payload.length < length) :
    ∃ ended, decode ⟨.payload length, header, 0, payload⟩ input = .ok ended ∧ ended.turns = 1 ∧
      ended.storage.Aligned ∧
      ended.decoded = Decoder.fill (length - payload.length) payload.reverse input := by
  have turned := takePayload_short ⟨.payload length, header, 0, payload⟩ length input short
  rw [Decoder.fill_eq]
  simp only [List.length_append, List.length_take] at turned
  split at turned
  · next still =>
      have dry : input.length < length - payload.length := by omega
      have all : input.take (length - payload.length) = input :=
        List.take_of_length_le (Nat.le_of_lt dry)
      have noneLeft : input.drop (length - payload.length) = [] :=
        List.drop_eq_nil_of_le (Nat.le_of_lt dry)
      rw [all, noneLeft] at turned
      refine ⟨_, decode_of_ended turned, rfl, .payload ?_, ?_⟩
      · rw [List.length_append]
        omega
      · rw [if_pos dry]
        simp only [Ended.decoded, decoder, List.length_append, List.reverse_append, Nat.sub_sub]
  · next complete =>
      have enough : ¬ input.length < length - payload.length := by omega
      refine ⟨_, decode_of_ended turned, rfl, .header (Nat.zero_le _), ?_⟩
      rw [if_neg enough, List.reverse_reverse]
      rfl

theorem decode_header {filled : Nat} (header : Header) (input : Bytes)
    (within : filled ≤ headerLength) :
    ∃ ended, decode ⟨.header, header, filled, []⟩ input = .ok ended ∧ ended.turns ≤ 2 ∧
      ended.storage.Aligned ∧
      ended.decoded = Decoder.decode (.header (header.bytes.take filled)) input := by
  obtain ⟨next, front, turned⟩ := takeHeader_within header filled input within
  simp only [Decoder.decode, header.length_take within]
  have size : (header.bytes.take filled ++ input.take (headerLength - filled)).length ≤
      headerLength := by
    rw [List.length_append, header.length_take within, List.length_take]
    omega
  generalize header.bytes.take filled ++ input.take (headerLength - filled) = bytes
    at front turned size ⊢
  split at turned
  · next short =>
      refine ⟨_, decode_of_ended turned, Nat.le_succ 1, .header size, ?_⟩
      rw [if_pos short]
      simp only [Ended.decoded, decoder, front]
  · next long =>
      rw [if_neg long]
      cases checked : checkLength (Bytes.toNat bytes) with
      | error violation =>
          simp only [checked] at turned
          refine ⟨_, decode_of_ended turned, Nat.le_succ 1, .header size, ?_⟩
          simp only [Ended.decoded, decoder, front]
      | ok _ =>
          simp only [checked] at turned
          -- The header is complete, so the rest of the input is one turn of the payload.
          have someMissing : ([] : Bytes).length < Bytes.toNat bytes :=
            ((checkLength_eq_ok_iff _).mp checked).1
          obtain ⟨ended, later, once, aligned, same⟩ :=
            decode_payload next (input.drop (headerLength - filled)) someMissing
          refine ⟨_, decode_of_again turned later, ?_, aligned, same⟩
          exact Nat.le_of_eq (congrArg (· + 1) once)

/-- A call on aligned parts meets no fault, takes two turns at most and is the call on
the decoder that is kept. -/
theorem Aligned.decode {storage : Storage} (aligned : storage.Aligned) (input : Bytes) :
    ∃ ended, storage.decode input = .ok ended ∧ ended.turns ≤ 2 ∧ ended.storage.Aligned ∧
      ended.decoded = storage.decoder.decode input := by
  cases aligned with
  | header within => exact decode_header _ input within
  | payload short =>
      obtain ⟨ended, made, once, aligned, same⟩ := decode_payload _ input short
      exact ⟨ended, made, once ▸ Nat.le_succ 1, aligned, same⟩

/-! ## Any number of calls -/

theorem Aligned.calls {storage : Storage} (aligned : storage.Aligned) (inputs : List Bytes) :
    ∃ made last, storage.calls inputs = .ok (made, last) ∧ last.Aligned ∧
      made.map Ended.decoded = storage.decoder.calls inputs ∧
      last.decoder = storage.decoder.afterCalls inputs := by
  induction inputs generalizing storage with
  | nil => exact ⟨[], storage, rfl, aligned, rfl, rfl⟩
  | cons input later ih =>
      obtain ⟨ended, first, _, between, same⟩ := aligned.decode input
      obtain ⟨made, last, others, lasting, alike, after⟩ := ih between
      have left : (storage.decoder.decode input).decoder = ended.storage.decoder := by
        rw [← same]
        rfl
      refine ⟨ended :: made, last, ?_, lasting, ?_, ?_⟩
      · simp only [Storage.calls, first, bind, Except.bind, others, pure, Except.pure]
      · rw [List.map_cons, alike, same, Decoder.calls, left]
      · rw [after, Decoder.afterCalls, left]

theorem fresh_aligned : fresh.Aligned := .header (Nat.zero_le _)

end PacketRelay.Frame.Storage
