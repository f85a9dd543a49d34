import PacketRelay.Packet.Address

/-!
A one-line summary of a raw packet, for trace output. It shows header fields
and the length, never payload.
-/

namespace PacketRelay.Packet

def version (packet : Bytes) : Option Nat :=
  packet.head?.map fun first => first.toNat / 16

/-- The fixed header is there, and so are the options its length field announces. -/
def hasIPv4Header (packet : Bytes) : Bool :=
  match packet with
  | [] => false
  | first :: _ =>
      let words := first.toNat % 16
      20 ≤ packet.length && 5 ≤ words && 4 * words ≤ packet.length

def hasIPv6Header (packet : Bytes) : Bool :=
  40 ≤ packet.length

def slice (packet : Bytes) (start length : Nat) : Bytes :=
  (packet.drop start).take length

def byteAt (packet : Bytes) (index : Nat) : Nat :=
  (packet.getD index 0).toNat

def summary (packet : Bytes) : String :=
  let size := s!"({packet.length} bytes)"
  match version packet with
  | some 4 =>
      if hasIPv4Header packet then
        let source := Address.ipv4 (slice packet 12 4)
        let target := Address.ipv4 (slice packet 16 4)
        s!"IPv4 {source} → {target} proto={byteAt packet 9} {size}"
      else s!"malformed IPv4 {size}"
  | some 6 =>
      if hasIPv6Header packet then
        let source := Address.ipv6 (slice packet 8 16)
        let target := Address.ipv6 (slice packet 24 16)
        s!"IPv6 {source} → {target} next={byteAt packet 6} {size}"
      else s!"malformed IPv6 {size}"
  | _ => s!"non-IP {size}"

end PacketRelay.Packet
