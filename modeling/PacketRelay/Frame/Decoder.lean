import PacketRelay.Frame.Basic

/-!
The incremental decoder of one byte stream. Bytes come in any pieces; what is
not yet a whole frame is kept between calls. A header that announces an illegal
length stays in the decoder, so every later call fails the same way.
-/

namespace PacketRelay.Frame

inductive Decoder where
  | header (seen : Bytes)
  /-- How many payload bytes are missing, and those that are there, last first. -/
  | payload (missing : Nat) (seen : Bytes)
  deriving DecidableEq, Repr

/-- What one call gives: a packet, the need for more bytes or a violation, the
decoder afterwards, and the input it has not consumed. -/
structure Decoded where
  outcome : Except Violation (Option Bytes)
  decoder : Decoder
  rest : Bytes

namespace Decoder

def fresh : Decoder := .header []

def fill : Nat → Bytes → Bytes → Decoded
  | 0, seen, input => ⟨.ok (some seen.reverse), fresh, input⟩
  | missing + 1, seen, [] => ⟨.ok none, .payload (missing + 1) seen, []⟩
  | missing + 1, seen, byte :: rest => fill missing (byte :: seen) rest

def decode : Decoder → Bytes → Decoded
  | .header seen, input =>
      let missing := headerLength - seen.length
      let filled := seen ++ input.take missing
      let rest := input.drop missing
      if filled.length < headerLength then
        ⟨.ok none, .header filled, rest⟩
      else
        match checkLength (Bytes.toNat filled) with
        | .error violation => ⟨.error violation, .header filled, rest⟩
        | .ok () => fill (Bytes.toNat filled) [] rest
  | .payload missing seen, input => fill missing seen input

def buffered : Decoder → Nat
  | .header seen => seen.length
  | .payload _ seen => headerLength + seen.length

-- A payload stage that needs no more bytes completes without consuming any;
-- no call leaves one behind, but the type has room for it.
def overdue : Decoder → Nat
  | .payload 0 _ => 1
  | _ => 0

theorem overdue_fill (missing : Nat) (seen input : Bytes) :
    (fill missing seen input).decoder.overdue = 0 := by
  fun_induction fill missing seen input with
  | case1 => rfl
  | case2 => rfl
  | case3 missing seen byte rest ih => exact ih

theorem fill_rest_le (missing : Nat) (seen input : Bytes) :
    (fill missing seen input).rest.length ≤ input.length := by
  fun_induction fill missing seen input with
  | case1 => exact Nat.le_refl _
  | case2 => exact Nat.le_refl _
  | case3 missing seen byte rest ih => exact Nat.le_succ_of_le ih

theorem fill_rest_lt (missing : Nat) (seen input : Bytes)
    (room : 0 < missing) (someInput : input ≠ []) :
    (fill missing seen input).rest.length < input.length := by
  match missing, input with
  | missing + 1, byte :: rest => exact Nat.lt_succ_of_le (fill_rest_le missing (byte :: seen) rest)

/-- A call that succeeds on some input makes progress: it consumes a byte, or it
hands out a payload that was already complete. -/
theorem decode_progress (decoder : Decoder) (input : Bytes) (someInput : input ≠ [])
    {result : Option Bytes} (success : (decoder.decode input).outcome = .ok result) :
    2 * (decoder.decode input).rest.length + (decoder.decode input).decoder.overdue <
      2 * input.length + decoder.overdue := by
  have positive := List.length_pos_iff.mpr someInput
  cases decoder with
  | header seen =>
      simp only [decode] at success ⊢
      split
      case isTrue short =>
        have taken : 0 < headerLength - seen.length := by
          simp only [List.length_append] at short
          omega
        simp only [overdue, List.length_drop]
        omega
      case isFalse long =>
        rw [if_neg long] at success
        cases checked :
            checkLength (Bytes.toNat (seen ++ input.take (headerLength - seen.length))) with
        | error violation => simp [checked] at success
        | ok _ =>
            have legal := (checkLength_eq_ok_iff _).mp checked
            simp only [overdue_fill]
            -- A header with nothing behind it leads to a payload that misses at least one byte.
            by_cases allTaken : input.drop (headerLength - seen.length) = []
            · have noneLeft := fill_rest_le
                (Bytes.toNat (seen ++ input.take (headerLength - seen.length))) []
                (input.drop (headerLength - seen.length))
              rw [allTaken] at noneLeft ⊢
              simp only [List.length_nil] at noneLeft
              omega
            · have shorter := fill_rest_lt
                (Bytes.toNat (seen ++ input.take (headerLength - seen.length))) []
                (input.drop (headerLength - seen.length)) (by simpa using legal.1) allTaken
              simp only [List.length_drop] at shorter
              omega
  | payload missing seen =>
      simp only [decode, overdue_fill]
      match missing with
      | 0 => exact Nat.lt_succ_of_le (Nat.mul_le_mul_left 2 (fill_rest_le 0 seen input))
      | missing + 1 =>
          have shorter := fill_rest_lt (missing + 1) seen input (Nat.succ_pos _) someInput
          omega

structure Drained where
  packets : List Bytes
  violation : Option Violation
  decoder : Decoder
  rest : Bytes

def drain (decoder : Decoder) (input : Bytes) : Drained :=
  if _ : input = [] then ⟨[], none, decoder, []⟩
  else
    match _ : decoder.decode input with
    | ⟨.error violation, next, rest⟩ => ⟨[], some violation, next, rest⟩
    | ⟨.ok none, next, rest⟩ => drain next rest
    | ⟨.ok (some packet), next, rest⟩ =>
        let later := drain next rest
        { later with packets := packet :: later.packets }
termination_by 2 * input.length + decoder.overdue
decreasing_by
  all_goals
    have decoded := ‹decoder.decode input = _›
    have progress := decode_progress decoder input ‹_› (by rw [decoded])
    rw [decoded] at progress
    exact progress

end Decoder
end PacketRelay.Frame
