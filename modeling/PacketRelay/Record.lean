import PacketRelay.Kernel.Call
import PacketRelay.Log.Notice

/-!
What has happened so far: the system calls and the notices, newest first.
-/

namespace PacketRelay

structure Record where
  calls : List Kernel.Call := []
  notices : List Log.Notice := []

namespace Record

def call (record : Record) (made : Kernel.Call) : Record :=
  { record with calls := made :: record.calls }

def note (record : Record) (notice : Log.Notice) : Record :=
  { record with notices := notice :: record.notices }

end Record
end PacketRelay
