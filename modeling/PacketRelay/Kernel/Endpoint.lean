import PacketRelay.Bytes
import PacketRelay.Errno

/-!
An endpoint is the far side of a descriptor as the kernel plays it: what will
arrive, how much of each write it will take, and what a poll will say about it.
-/

namespace PacketRelay.Kernel

inductive Arrival where
  | data (bytes : Bytes)
  | failure (errno : Errno)
  | ended
  deriving DecidableEq, Repr

inductive Intake where
  | upTo (limit : Nat)
  | everything
  | failure (errno : Errno)
  deriving DecidableEq, Repr

structure Flags where
  readable : Bool := false
  urgent : Bool := false
  writable : Bool := false
  failed : Bool := false
  hungUp : Bool := false
  invalid : Bool := false
  deriving DecidableEq, Repr

def Flags.any (flags : Flags) : Bool :=
  flags.readable || flags.urgent || flags.writable || flags.failed || flags.hungUp || flags.invalid

def Flags.reading : Flags := { readable := true }

/-- `room` bounds what writes beyond `outbound` may take; `none` is no bound. -/
structure Endpoint where
  inbound : List Arrival := []
  outbound : List Intake := []
  room : Option Nat := none
  forced : Option Flags := none
  deriving DecidableEq, Repr

namespace Endpoint

/-- One read from a byte stream. It never joins two entries, and what does not
fit stays in front. The end of a stream is never used up. -/
def readStream (size : Nat) (endpoint : Endpoint) : Except Errno Bytes × Endpoint :=
  if size = 0 then (.ok [], endpoint)
  else
    match endpoint.inbound with
    | [] => (.error .again, endpoint)
    | .failure errno :: later => (.error errno, { endpoint with inbound := later })
    | .ended :: _ => (.ok [], endpoint)
    | .data bytes :: later =>
        match bytes.drop size with
        | [] => (.ok bytes, { endpoint with inbound := later })
        | left => (.ok (bytes.take size), { endpoint with inbound := .data left :: later })

/-- One read from a packet device. Every entry is used up, and what does not fit is lost. -/
def readPacket (size : Nat) (endpoint : Endpoint) : Except Errno Bytes × Endpoint :=
  if size = 0 then (.ok [], endpoint)
  else
    match endpoint.inbound with
    | [] => (.error .again, endpoint)
    | .failure errno :: later => (.error errno, { endpoint with inbound := later })
    | .ended :: later => (.ok [], { endpoint with inbound := later })
    | .data bytes :: later => (.ok (bytes.take size), { endpoint with inbound := later })

def write (bytes : Bytes) (endpoint : Endpoint) : Except Errno Nat × Endpoint :=
  match endpoint.outbound with
  | .failure errno :: later => (.error errno, { endpoint with outbound := later })
  | .everything :: later => (.ok bytes.length, { endpoint with outbound := later })
  | .upTo limit :: later => (.ok (min limit bytes.length), { endpoint with outbound := later })
  | [] =>
      match endpoint.room with
      | none => (.ok bytes.length, endpoint)
      | some 0 => (.error .again, endpoint)
      | some left =>
          let taken := min left bytes.length
          (.ok taken, { endpoint with room := some (left - taken) })

def readiness (requested : Flags) (endpoint : Endpoint) : Flags :=
  { readable := requested.readable && !endpoint.inbound.isEmpty
    writable := requested.writable && (!endpoint.outbound.isEmpty || endpoint.room != some 0) }

/-- What one poll reports; a forced report is used up. -/
def report (requested : Flags) (endpoint : Endpoint) : Flags × Endpoint :=
  match endpoint.forced with
  | some flags => (flags, { endpoint with forced := none })
  | none => (endpoint.readiness requested, endpoint)

theorem readStream_interrupted (size : Nat) (endpoint : Endpoint)
    (failed : (endpoint.readStream size).1 = .error .interrupted) :
    (endpoint.readStream size).2.inbound.length < endpoint.inbound.length := by
  unfold readStream at failed ⊢
  split at failed <;> rename_i sized
  · simp at failed
  · rw [if_neg sized]
    split at failed
    · simp [Errno.again, Errno.interrupted] at failed
    · simp_all
    · simp at failed
    · split at failed <;> simp at failed

theorem readPacket_interrupted (size : Nat) (endpoint : Endpoint)
    (failed : (endpoint.readPacket size).1 = .error .interrupted) :
    (endpoint.readPacket size).2.inbound.length < endpoint.inbound.length := by
  unfold readPacket at failed ⊢
  split at failed <;> rename_i sized
  · simp at failed
  · rw [if_neg sized]
    split at failed
    · simp [Errno.again, Errno.interrupted] at failed
    · simp_all
    · simp at failed
    · simp at failed

theorem readPacket_some (size : Nat) (endpoint : Endpoint) (bytes : Bytes)
    (success : (endpoint.readPacket size).1 = .ok bytes) (nonempty : bytes ≠ []) :
    (endpoint.readPacket size).2.inbound.length < endpoint.inbound.length := by
  unfold readPacket at success ⊢
  split at success <;> rename_i sized
  · simp_all
  · rw [if_neg sized]
    split at success <;> simp_all

theorem write_interrupted (bytes : Bytes) (endpoint : Endpoint)
    (failed : (endpoint.write bytes).1 = .error .interrupted) :
    (endpoint.write bytes).2.outbound.length < endpoint.outbound.length := by
  unfold write at failed ⊢
  split at failed
  · simp_all
  · simp at failed
  · simp at failed
  · split at failed
    · simp at failed
    · simp [Errno.again, Errno.interrupted] at failed
    · simp at failed

end Endpoint
end PacketRelay.Kernel
