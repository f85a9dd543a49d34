import PacketRelay.Kernel.Basic
import PacketRelay.Session.Service

/-!
The connected clients, in the order in which they were accepted. Ids are given
out once each. A frame is offered to every client that is there when a
broadcast starts; those that fail leave the roster when it is over.
-/

namespace PacketRelay

namespace Kernel

def line (kernel : Kernel) (session : Session) : Line :=
  ⟨session, kernel.client session.label, kernel.record⟩

def overLine (kernel : Kernel) (line : Line) : Kernel :=
  { kernel.setClient line.session.label line.stream with record := line.record }

def circuit (kernel : Kernel) (session : Session) : Circuit :=
  ⟨kernel.line session, kernel.tunnel⟩

def overCircuit (kernel : Kernel) (circuit : Circuit) : Kernel :=
  { kernel.overLine circuit.toLine with tunnel := circuit.tunnel }

end Kernel

structure Roster where
  sessions : List Session := []
  /-- How many ids have been given out; the newest id is this number. -/
  issued : Nat := 0

namespace Roster

def insert (label : Nat) (roster : Roster) : Nat × Roster :=
  let id := roster.issued + 1
  (id, { sessions := roster.sessions ++ [{ id, label }], issued := id })

def find? (id : Nat) (roster : Roster) : Option Session :=
  roster.sessions.find? (·.id = id)

def remove (id : Nat) (roster : Roster) : Option Session × Roster :=
  (roster.find? id, { roster with sessions := roster.sessions.eraseP (·.id = id) })

def update (session : Session) (roster : Roster) : Roster :=
  { roster with
    sessions := roster.sessions.map fun other => if other.id = session.id then session else other }

def size (roster : Roster) : Nat :=
  roster.sessions.length

structure Broadcast where
  delivered : Nat
  dropped : Nat
  closed : List (Session × Parting)

def offer (frame : Bytes) : List Session → Kernel → List (Session × Sending) × Kernel
  | [], kernel => ([], kernel)
  | session :: rest, kernel =>
      let (sending, line) := (kernel.line session).send frame
      let (later, kernel) := offer frame rest (kernel.overLine line)
      ((line.session, sending) :: later, kernel)

def failedBy : Session × Sending → Option (Nat × Parting)
  | (session, .closed parting) => some (session.id, parting)
  | _ => none

def delivers : Session × Sending → Bool
  | (_, .sent) | (_, .partly) => true
  | _ => false

def drops : Session × Sending → Bool
  | (_, .dropped) => true
  | _ => false

/-- Takes those that failed off the roster, one after another, each looked up by its id. -/
def removeAll : List (Nat × Parting) → Roster → List (Session × Parting) × Roster
  | [], roster => ([], roster)
  | (id, parting) :: rest, roster =>
      match roster.remove id with
      | (none, roster) => removeAll rest roster
      | (some session, roster) =>
          let (closed, roster) := removeAll rest roster
          ((session, parting) :: closed, roster)

def broadcast (frame : Bytes) (roster : Roster) (kernel : Kernel) : Broadcast × Roster × Kernel :=
  let (offers, kernel) := offer frame roster.sessions kernel
  let offered : Roster := { roster with sessions := offers.map (·.1) }
  let (closed, roster) := offered.removeAll (offers.filterMap failedBy)
  ({ delivered := offers.countP delivers, dropped := offers.countP drops, closed }, roster, kernel)

/-- Takes every session off the roster. Ids go on from where they were. -/
def drain (roster : Roster) : List Session × Roster :=
  (roster.sessions, { roster with sessions := [] })

theorem offer_tunnel (frame : Bytes) (sessions : List Session) (kernel : Kernel) :
    (offer frame sessions kernel).2.tunnel = kernel.tunnel := by
  induction sessions generalizing kernel with
  | nil => rfl
  | cons session rest ih => exact ih _

theorem broadcast_tunnel (frame : Bytes) (roster : Roster) (kernel : Kernel) :
    (roster.broadcast frame kernel).2.2.tunnel = kernel.tunnel :=
  offer_tunnel frame roster.sessions kernel

end Roster
end PacketRelay
