/-!
Counters. A `Tally` belongs to one client's session, `Totals` to a relay.
-/

namespace PacketRelay

structure Tally where
  /-- Frames decoded from the client. -/
  received : Nat := 0
  /-- Of those, packets the tunnel took whole. -/
  forwarded : Nat := 0
  /-- Frames the client's stream took, whole or in part. -/
  sent : Nat := 0
  /-- Frames dropped because the client was not ready for them. -/
  dropped : Nat := 0
  deriving DecidableEq, Repr

def Tally.add (left right : Tally) : Tally :=
  { received := left.received + right.received
    forwarded := left.forwarded + right.forwarded
    sent := left.sent + right.sent
    dropped := left.dropped + right.dropped }

structure Totals where
  fromTunnel : Nat := 0
  toTunnel : Nat := 0
  tunnelDrops : Nat := 0
  fanOutDrops : Nat := 0
  connections : Nat := 0
  deriving DecidableEq, Repr

end PacketRelay
