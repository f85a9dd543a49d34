import PacketRelay.Kernel.Endpoint

/-!
System calls as they are remembered: what was asked and what came of it.
-/

namespace PacketRelay.Kernel

/-- What a program holds open. Clients are told apart by the order in which they connected. -/
inductive Descriptor where
  | tunnel
  | channel
  | client (label : Nat)
  deriving DecidableEq, Repr

inductive Buffer where
  | receive
  | send
  deriving DecidableEq, Repr

def Buffer.option : Buffer → String
  | .receive => "SO_RCVBUF"
  | .send => "SO_SNDBUF"

inductive Call where
  | openTunnel (failure : Option Errno)
  | attach (name : String) (flags : Nat) (failure : Option Errno)
  | unblock (descriptor : Descriptor) (failure : Option Errno)
  | resize (descriptor : Descriptor) (buffer : Buffer) (size : Int) (failure : Option Errno)
  | read (descriptor : Descriptor) (size : Nat) (result : Except Errno Bytes)
  | write (descriptor : Descriptor) (bytes : Bytes) (result : Except Errno Nat)
  | accept (result : Except Errno Nat)
  | poll (timeout : Nat) (watched : List (Descriptor × Flags)) (result : Except Errno (List Flags))
  | close (descriptor : Descriptor)
  | removeFile (path : String) (failure : Option IoError)
  | bind (path : String) (failure : Option IoError)
  | changeMode (path : String) (mode : Nat) (failure : Option IoError)

end PacketRelay.Kernel
