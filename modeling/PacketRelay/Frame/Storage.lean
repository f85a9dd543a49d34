import PacketRelay.Frame.Decoder

/-!
A decoder as it is kept in memory: four places for a header, how many of them are
filled, and the payload that has come so far. A difference below zero, or places that
do not exist, is a fault. Main statement: no turn of a call is followed by more than
one other.
-/

namespace PacketRelay.Frame.Storage

inductive Fault where
  | belowZero
  | outOfRange
  | unequalLengths
  deriving DecidableEq, Repr

def difference (whole part : Nat) : Except Fault Nat :=
  if part ≤ whole then .ok (whole - part) else .error .belowZero

def places (bytes : Bytes) (start stop : Nat) : Except Fault Bytes :=
  if start ≤ stop ∧ stop ≤ bytes.length then .ok ((bytes.take stop).drop start)
  else .error .outOfRange

structure Header where
  bytes : Bytes
  complete : bytes.length = headerLength
  deriving DecidableEq, Repr

def Header.blank : Header := ⟨List.replicate headerLength 0, List.length_replicate⟩

def Header.copy (header : Header) (start stop : Nat) (part : Bytes) : Except Fault Header :=
  if within : start ≤ stop ∧ stop ≤ headerLength then
    if equal : part.length = stop - start then
      .ok {
        bytes := header.bytes.take start ++ part ++ header.bytes.drop stop
        complete := by
          simp only [List.length_append, List.length_take, List.length_drop, header.complete, equal]
          omega }
    else .error .unequalLengths
  else .error .outOfRange

inductive Stage where
  | header
  | payload (length : Nat)
  deriving DecidableEq, Repr

end Storage

open Storage (Fault Header Stage difference places)

structure Storage where
  stage : Stage
  header : Header
  filled : Nat
  payload : Bytes
  deriving DecidableEq, Repr

namespace Storage

def fresh : Storage := ⟨.header, .blank, 0, []⟩

/-- The decoder that is kept. Bytes in places that are not filled do not count. -/
def decoder (storage : Storage) : Decoder :=
  match storage.stage with
  | .header => .header (storage.header.bytes.take storage.filled)
  | .payload length => .payload (length - storage.payload.length) storage.payload.reverse

theorem decoder_fresh : fresh.decoder = Decoder.fresh := rfl

def buffered (storage : Storage) : Nat :=
  match storage.stage with
  | .header => storage.filled
  | .payload _ => headerLength + storage.payload.length

inductive Turned where
  | ended (outcome : Except Violation (Option Bytes)) (storage : Storage) (rest : Bytes)
  | again (storage : Storage) (rest : Bytes)

def takeHeader (storage : Storage) (input : Bytes) : Except Fault Turned := do
  let missing ← difference headerLength storage.filled
  let count := min missing input.length
  let part ← places input 0 count
  let header ← storage.header.copy storage.filled (storage.filled + count) part
  let filled := storage.filled + count
  let rest ← places input count input.length
  if filled < headerLength then
    return .ended (.ok none) { storage with header, filled } rest
  else
    let length := Bytes.toNat header.bytes
    match checkLength length with
    | .error violation => return .ended (.error violation) { storage with header, filled } rest
    | .ok () => return .again ⟨.payload length, header, 0, []⟩ rest

def takePayload (length : Nat) (storage : Storage) (input : Bytes) : Except Fault Turned := do
  let missing ← difference length storage.payload.length
  let count := min missing input.length
  let part ← places input 0 count
  let payload := storage.payload ++ part
  let rest ← places input count input.length
  if payload.length < length then
    return .ended (.ok none) { storage with payload } rest
  else
    return .ended (.ok (some payload)) { storage with stage := .header, payload := [] } rest

def turn (storage : Storage) (input : Bytes) : Except Fault Turned :=
  match storage.stage with
  | .header => storage.takeHeader input
  | .payload length => storage.takePayload length input

/-- How many turns may still follow one at this stage. -/
def Stage.ahead : Stage → Nat
  | .header => 1
  | .payload _ => 0

theorem ahead_of_again {storage next : Storage} {input rest : Bytes}
    (turned : storage.turn input = .ok (.again next rest)) :
    next.stage.ahead < storage.stage.ahead := by
  unfold turn at turned
  split at turned
  · next stage =>
      simp only [takeHeader, bind, Except.bind, pure, Except.pure] at turned
      repeat' split at turned
      all_goals cases turned
      rw [stage]
      exact Nat.zero_lt_one
  · next length stage =>
      simp only [takePayload, bind, Except.bind, pure, Except.pure] at turned
      repeat' split at turned
      all_goals cases turned

structure Ended where
  outcome : Except Violation (Option Bytes)
  storage : Storage
  rest : Bytes
  turns : Nat

def Ended.decoded (ended : Ended) : Decoded :=
  ⟨ended.outcome, ended.storage.decoder, ended.rest⟩

def decode (storage : Storage) (input : Bytes) : Except Fault Ended :=
  match _ : storage.turn input with
  | .error fault => .error fault
  | .ok (.ended outcome next rest) => .ok ⟨outcome, next, rest, 1⟩
  | .ok (.again next rest) =>
      (next.decode rest).map fun ended => { ended with turns := ended.turns + 1 }
termination_by storage.stage.ahead
decreasing_by exact ahead_of_again ‹_›

def calls (storage : Storage) : List Bytes → Except Fault (List Ended × Storage)
  | [] => .ok ([], storage)
  | input :: later => do
      let ended ← storage.decode input
      let (others, last) ← ended.storage.calls later
      return (ended :: others, last)

end Storage
end PacketRelay.Frame
