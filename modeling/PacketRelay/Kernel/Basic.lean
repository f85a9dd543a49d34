import PacketRelay.Kernel.FileTree
import PacketRelay.Kernel.Handle

/-!
The kernel: the tunnel, the clients and their connections, the files, and the
faults it is set to play. Every operation here is one system call, and each is
put on the record.
-/

namespace PacketRelay

open Kernel

namespace Kernel

/-- Why a removal is refused whatever the path leads to. A file that is there is not
called missing. -/
structure Denial where
  errno : Errno
  present : errno ≠ .notFound
  deriving DecidableEq, Repr

/-- The calls that are to fail, most of them calls of opening, and the interface name to give. -/
structure Faults where
  openTunnel : Option Errno := none
  attach : Option Errno := none
  unblockTunnel : Option Errno := none
  interfaceName : Option String := none
  unblockChannel : Option Errno := none
  resize : Option Errno := none
  changeMode : Option Errno := none
  removeFile : Option Denial := none
  makeSocket : Option Errno := none
  bind : Option Errno := none
  /-- Listening fails when the socket has its file already. -/
  listen : Option Errno := none
  deriving DecidableEq, Repr

inductive Knock where
  | connection (label : Nat) (unblockFault : Option Errno)
  | failure (errno : Errno)
  deriving DecidableEq, Repr

end Kernel

structure Kernel where
  tunnel : Endpoint := {}
  clients : List (Nat × Endpoint) := []
  /-- How many connections have been made. -/
  connected : Nat := 0
  knocks : List Knock := []
  channelForced : Option Flags := none
  pollFaults : List Errno := []
  files : FileTree := {}
  faults : Faults := {}
  record : Record := {}

namespace Kernel

def call (kernel : Kernel) (made : Call) : Kernel :=
  { kernel with record := kernel.record.call made }

def note (kernel : Kernel) (notice : Log.Notice) : Kernel :=
  { kernel with record := kernel.record.note notice }

def client (kernel : Kernel) (label : Nat) : Endpoint :=
  (kernel.clients.lookup label).getD {}

def setClient (kernel : Kernel) (label : Nat) (endpoint : Endpoint) : Kernel :=
  { kernel with clients := Table.insert label endpoint kernel.clients }

theorem client_setClient (kernel : Kernel) (label other : Nat) (endpoint : Endpoint) :
    (kernel.setClient label endpoint).client other =
      if other = label then endpoint else kernel.client other := by
  by_cases same : other = label <;> simp [client, setClient, Table.lookup_insert, same]

def tunnelHandle (kernel : Kernel) : Handle :=
  ⟨.tunnel, kernel.tunnel, kernel.record⟩

def overTunnel (kernel : Kernel) (handle : Handle) : Kernel :=
  { kernel with tunnel := handle.endpoint, record := handle.record }

/-! ## Opening and closing -/

def openTunnel (kernel : Kernel) : Option Errno × Kernel :=
  (kernel.faults.openTunnel, kernel.call (.openTunnel kernel.faults.openTunnel))

def attach (name : String) (flags : Nat) (kernel : Kernel) : Option Errno × Kernel :=
  (kernel.faults.attach, kernel.call (.attach name flags kernel.faults.attach))

def unblock (descriptor : Descriptor) (fault : Option Errno) (kernel : Kernel) :
    Option Errno × Kernel :=
  (fault, kernel.call (.unblock descriptor fault))

def close (descriptor : Descriptor) (kernel : Kernel) : Kernel :=
  kernel.call (.close descriptor)

-- The option is a signed word of 32 bits, so larger sizes wrap around.
def resize (descriptor : Descriptor) (buffer : Buffer) (size : Nat) (kernel : Kernel) :
    Option Errno × Kernel :=
  (kernel.faults.resize,
    kernel.call (.resize descriptor buffer (Int.bmod size 4294967296) kernel.faults.resize))

/-! ## Connections -/

def connect (count : Nat) (fault : Option Errno) (kernel : Kernel) : Kernel :=
  { kernel with
    connected := kernel.connected + count
    knocks := kernel.knocks ++
      (List.range' (kernel.connected + 1) count).map fun label => .connection label fault }

/-- Takes the first entry of the queue: a connection and the fault that its
switch to non-blocking will meet, or an error. -/
def accept (kernel : Kernel) : Except Errno (Nat × Option Errno) × Kernel :=
  match kernel.knocks with
  | [] => (.error .again, kernel.call (.accept (.error .again)))
  | .connection label fault :: later =>
      (.ok (label, fault), { kernel with knocks := later }.call (.accept (.ok label)))
  | .failure errno :: later =>
      (.error errno, { kernel with knocks := later }.call (.accept (.error errno)))

/-! ## Polling -/

def reportOn (descriptor : Descriptor) (requested : Flags) (kernel : Kernel) : Flags × Kernel :=
  match descriptor with
  | .tunnel =>
      let (flags, endpoint) := kernel.tunnel.report requested
      (flags, { kernel with tunnel := endpoint })
  | .channel =>
      match kernel.channelForced with
      | some flags => (flags, { kernel with channelForced := none })
      | none => ({ readable := requested.readable && !kernel.knocks.isEmpty }, kernel)
  | .client label =>
      let (flags, endpoint) := (kernel.client label).report requested
      (flags, kernel.setClient label endpoint)

def reports : List (Descriptor × Flags) → Kernel → List Flags × Kernel
  | [], kernel => ([], kernel)
  | (descriptor, requested) :: rest, kernel =>
      let (flags, kernel) := kernel.reportOn descriptor requested
      let (later, kernel) := kernel.reports rest
      (flags :: later, kernel)

def poll (timeout : Nat) (watched : List (Descriptor × Flags)) (kernel : Kernel) :
    Except Errno (List Flags) × Kernel :=
  let (flags, kernel) := kernel.reports watched
  match kernel.pollFaults with
  | [] => (.ok flags, kernel.call (.poll timeout watched (.ok flags)))
  | errno :: later =>
      (.error errno,
        { kernel with pollFaults := later }.call (.poll timeout watched (.error errno)))

/-! ## Files -/

/-- The files when one has been removed. A path with a NUL does not get as far as the system. -/
def Faults.removal (path : String) (files : FileTree) (faults : Faults) : Except IoError FileTree :=
  match faults.removeFile with
  | none => files.remove path
  | some denial =>
      if path.contains '\x00' then .error .nulInPath else .error (.os denial.errno)

def removeFile (path : String) (kernel : Kernel) : Except IoError Unit × Kernel :=
  match kernel.faults.removal path kernel.files with
  | .ok files => (.ok (), { kernel with files }.call (.removeFile path none))
  | .error error => (.error error, kernel.call (.removeFile path (some error)))

/-- The files when a socket has got its own. The socket is made before its address is
looked at, and the address before the system is asked. -/
def Faults.socketFile (path : String) (files : FileTree) (faults : Faults) :
    Except IoError FileTree :=
  match faults.makeSocket, faults.bind with
  | some errno, _ => .error (.os errno)
  | none, none => files.bind path
  | none, some errno =>
      if FileTree.maxSocketPathBytes < path.utf8ByteSize then .error .pathTooLong
      else if path.contains '\x00' then .error .nulInPath
      else .error (.os errno)

/-- Makes a socket that listens at a path. If it cannot listen it is given up, but not its file. -/
def bind (path : String) (kernel : Kernel) : Except IoError Unit × Kernel :=
  match kernel.faults.socketFile path kernel.files with
  | .error error => (.error error, kernel.call (.bind path (some error)))
  | .ok files =>
      match kernel.faults.listen with
      | none => (.ok (), { kernel with files }.call (.bind path none))
      | some errno =>
          (.error (.os errno), { kernel with files }.call (.bind path (some (.os errno))))

def changeMode (path : String) (mode : Nat) (kernel : Kernel) : Except IoError Unit × Kernel :=
  match kernel.faults.changeMode with
  | some errno => (.error (.os errno), kernel.call (.changeMode path mode (some (.os errno))))
  | none =>
      match kernel.files.changeMode path mode with
      | .ok files => (.ok (), { kernel with files }.call (.changeMode path mode none))
      | .error error => (.error error, kernel.call (.changeMode path mode (some error)))

end Kernel
end PacketRelay
