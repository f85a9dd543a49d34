import PacketRelay.Kernel.Handle

/-!
One packet from the tunnel, or one packet to it. A packet that the tunnel
cannot take now, takes only in part or rejects as malformed is dropped; any
other error is returned.
-/

namespace PacketRelay.Tunnel

open Kernel (Handle)

def maxPacketSize : Nat := 65536

def receive (size : Nat) (handle : Handle) : Except Errno (Option Bytes) × Handle :=
  match handle.readPacket size with
  | (.ok [], handle) => (.ok none, handle)
  | (.ok packet, handle) => (.ok (some packet), handle)
  | (.error errno, handle) => (if errno = .again then .ok none else .error errno, handle)

theorem receive_some (size : Nat) (handle : Handle) (packet : Bytes)
    (success : (receive size handle).1 = .ok (some packet)) :
    (receive size handle).2.endpoint.inbound.length < handle.endpoint.inbound.length := by
  have shorter := Handle.readPacket_some size handle packet
  unfold receive at success ⊢
  split at success
  · simp at success
  · simp_all
  · split at success <;> simp at success

inductive Delivery where
  | written
  | dropped
  deriving DecidableEq, Repr

def transmit (name : String) (packet : Bytes) (handle : Handle) : Except Errno Delivery × Handle :=
  match handle.write packet with
  | (.ok taken, handle) =>
      if taken = packet.length then
        (.ok .written, handle.note (.tunnelTook name packet))
      else
        (.ok .dropped, handle.note (.shortWrite name taken packet.length))
  | (.error errno, handle) =>
      if errno = .again then
        (.ok .dropped, handle.note (.tunnelBusy name packet.length))
      else if errno = .invalid then
        (.ok .dropped, handle.note (.packetRejected name packet errno))
      else
        (.error errno, handle)

end PacketRelay.Tunnel
