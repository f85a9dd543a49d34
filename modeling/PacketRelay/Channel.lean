import PacketRelay.Kernel.Basic

/-!
The local channel: a listening socket with a file that clients find it by. The
file belongs to the channel. It is replaced on `bind` and removed on `close`,
and `close` does nothing the second time.
-/

namespace PacketRelay

structure Channel where
  path : String
  bufferSize : Nat
  isOpen : Bool := true
  deriving DecidableEq, Repr

namespace Channel

open Kernel (Descriptor Buffer)

def resizeOne (descriptor : Descriptor) (size : Nat) (kernel : Kernel) (buffer : Buffer) : Kernel :=
  match kernel.resize descriptor buffer size with
  | (none, after) => after
  | (some errno, after) => after.note (.bufferRefused buffer size errno)

/-- Asks for larger buffers. A refusal costs only tolerance of bursts. -/
def enlarge (descriptor : Descriptor) (size : Nat) (kernel : Kernel) : Kernel :=
  resizeOne descriptor size (resizeOne descriptor size kernel .receive) .send

theorem resizeOne_knocks (descriptor : Descriptor) (size : Nat) (kernel : Kernel)
    (buffer : Buffer) :
    (resizeOne descriptor size kernel buffer).knocks = kernel.knocks := by
  unfold resizeOne
  cases refusal : kernel.faults.resize <;>
    simp [Kernel.resize, refusal, Kernel.note, Kernel.call]

theorem enlarge_knocks (descriptor : Descriptor) (size : Nat) (kernel : Kernel) :
    (enlarge descriptor size kernel).knocks = kernel.knocks := by
  simp [enlarge, resizeOne_knocks]

def setMode (path : String) (mode : Nat) (kernel : Kernel) : Kernel :=
  match kernel.changeMode path mode with
  | (.ok (), after) => after
  | (.error error, after) => after.note (.modeRefused path error)

def clear (path : String) (kernel : Kernel) : Except IoError Unit × Kernel :=
  match kernel.removeFile path with
  | (.ok (), after) => (.ok (), after.note (.staleRemoved path))
  | (.error error, after) => (if error = .os .notFound then .ok () else .error error, after)

def bind (path : String) (mode size : Nat) (kernel : Kernel) : Except Failure Channel × Kernel :=
  match clear path kernel with
  | (.error error, kernel) => (.error (.channelRefused path error), kernel)
  | (.ok (), kernel) =>
      match kernel.bind path with
      | (.error error, kernel) => (.error (.channelRefused path error), kernel)
      | (.ok (), kernel) =>
          match kernel.unblock .channel kernel.faults.unblockChannel with
          | (some errno, kernel) =>
              (.error (.channelRefused path (.os errno)), kernel.close .channel)
          | (none, kernel) =>
              let kernel := setMode path mode (enlarge .channel size kernel)
              (.ok { path, bufferSize := size }, kernel.note (.listening path))

theorem accept_interrupted (kernel : Kernel)
    (failed : kernel.accept.1 = .error .interrupted) :
    kernel.accept.2.knocks.length < kernel.knocks.length := by
  unfold Kernel.accept at failed ⊢
  split at failed
  · simp [Errno.again, Errno.interrupted] at failed
  · simp at failed
  · simp_all [Kernel.call]

def prepare (size label : Nat) (fault : Option Errno) (kernel : Kernel) :
    Except Errno (Option Nat) × Kernel :=
  match kernel.unblock (.client label) fault with
  | (some errno, after) => (.error errno, after.close (.client label))
  | (none, after) => (.ok (some label), enlarge (.client label) size after)

/-- Takes connections off the queue until one is ready or none is left. -/
def take (size : Nat) (kernel : Kernel) : Except Errno (Option Nat) × Kernel :=
  match _ : kernel.accept with
  | (.ok (label, fault), after) => prepare size label fault after
  | (.error errno, after) =>
      if errno = .again then (.ok none, after)
      else if _ : errno = .interrupted then take size after
      else (.error errno, after)
termination_by kernel.knocks.length
decreasing_by
  have taken := ‹kernel.accept = _›
  have shorter := accept_interrupted kernel
  simp_all

theorem accept_connection (kernel : Kernel) (taken : Nat × Option Errno)
    (success : kernel.accept.1 = .ok taken) :
    kernel.accept.2.knocks.length < kernel.knocks.length := by
  unfold Kernel.accept at success ⊢
  split at success
  · simp at success
  · simp_all [Kernel.call]
  · simp at success

theorem prepare_knocks (size label : Nat) (fault : Option Errno) (kernel : Kernel) :
    (prepare size label fault kernel).2.knocks = kernel.knocks := by
  cases fault <;> simp [prepare, Kernel.unblock, Kernel.close, Kernel.call, enlarge_knocks]

theorem take_some (size label : Nat) (kernel : Kernel)
    (success : (take size kernel).1 = .ok (some label)) :
    (take size kernel).2.knocks.length < kernel.knocks.length := by
  fun_induction take size kernel with
  | case1 kernel taken fault after made =>
      have shorter := accept_connection kernel (taken, fault) (by rw [made])
      simpa [prepare_knocks, made] using shorter
  | case2 => simp at success
  | case3 kernel after made again ih =>
      have shorter := accept_interrupted kernel (by rw [made])
      simp only [made] at shorter
      exact Nat.lt_trans (ih success) shorter
  | case4 => simp at success

def accept (channel : Channel) (kernel : Kernel) : Except Errno (Option Nat) × Kernel :=
  if channel.isOpen then take channel.bufferSize kernel else (.ok none, kernel)

theorem accept_some (channel : Channel) (label : Nat) (kernel : Kernel)
    (success : (channel.accept kernel).1 = .ok (some label)) :
    (channel.accept kernel).2.knocks.length < kernel.knocks.length := by
  unfold accept at success ⊢
  split at success
  · simp_all [take_some channel.bufferSize label kernel success]
  · simp at success

def close (channel : Channel) (kernel : Kernel) : Channel × Kernel :=
  if channel.isOpen then
    let closed := { channel with isOpen := false }
    match (kernel.close .channel).removeFile channel.path with
    | (.ok (), after) => (closed, after.note (.socketRemoved channel.path))
    | (.error error, after) =>
        if error = .os .notFound then (closed, after)
        else (closed, after.note (.removalRefused channel.path error))
  else (channel, kernel)

end Channel
end PacketRelay
