import PacketRelay.Kernel.Basic

/-!
Opening the tunnel: the device node, the interface attached to it, and the
switch to non-blocking. Whatever fails, what was opened is closed again.
-/

namespace PacketRelay.Tunnel

-- Raw packets, without a header before each.
def rawPackets : Nat := 4097

/-- What fits of a name into `room` bytes. A character that fits only in part
leaves a replacement character, and a name ends at a NUL. -/
def cut (room : Nat) : List Char → List Char
  | [] => []
  | first :: rest =>
      if first = '\x00' then []
      else if first.utf8Size ≤ room then first :: cut (room - first.utf8Size) rest
      else if room = 0 then []
      else ['\ufffd']

def requestedName (name : String) : String :=
  String.ofList (cut Settings.maxNameBytes name.toList)

def open? (name : String) (kernel : Kernel) : Except Failure String × Kernel :=
  match kernel.openTunnel with
  | (some errno, kernel) => (.error (.tunnelUnavailable name errno), kernel)
  | (none, kernel) =>
      match kernel.attach (requestedName name) rawPackets with
      | (some errno, kernel) => (.error (.tunnelUnavailable name errno), kernel.close .tunnel)
      | (none, kernel) =>
          match kernel.unblock .tunnel kernel.faults.unblockTunnel with
          | (some errno, kernel) => (.error (.tunnelUnavailable name errno), kernel.close .tunnel)
          | (none, kernel) =>
              let given := kernel.faults.interfaceName.getD (requestedName name)
              (.ok given, kernel.note (.tunnelOpened given))

end PacketRelay.Tunnel
