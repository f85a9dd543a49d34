import PacketRelay.Bytes

/-!
Length-prefixed frames: a four-byte big-endian length, then that many bytes of
one raw packet. A frame carries 1 to 65535 bytes, and `encode` refuses the rest.
-/

namespace PacketRelay.Frame

def headerLength : Nat := 4

def maxLength : Nat := 65535

inductive Violation where
  | empty
  | tooLong (length : Nat)
  deriving DecidableEq, Repr

def Violation.message : Violation → String
  | .empty => "zero-length frame"
  | .tooLong length => s!"frame length {length} exceeds maximum of {maxLength}"

def checkLength (length : Nat) : Except Violation Unit :=
  if length = 0 then .error .empty
  else if length > maxLength then .error (.tooLong length)
  else .ok ()

/-- The frame that carries `payload`, whether its length is legal or not. -/
def wrap (payload : Bytes) : Bytes :=
  Bytes.ofWord payload.length ++ payload

def encode (payload : Bytes) : Except Violation Bytes :=
  match checkLength payload.length with
  | .error violation => .error violation
  | .ok () => .ok (wrap payload)

theorem checkLength_eq_ok_iff (length : Nat) :
    checkLength length = .ok () ↔ 0 < length ∧ length ≤ maxLength := by
  unfold checkLength
  by_cases zero : length = 0
  · simp [zero]
  · by_cases big : length > maxLength
    · simp [zero, big]
    · simp [zero, big]; omega

theorem encode_eq_ok_iff (payload frame : Bytes) :
    encode payload = .ok frame ↔
      (0 < payload.length ∧ payload.length ≤ maxLength) ∧ frame = wrap payload := by
  rw [← checkLength_eq_ok_iff]
  unfold encode
  cases checked : checkLength payload.length with
  | error violation => simp
  | ok _ => simp [eq_comm]

end PacketRelay.Frame
