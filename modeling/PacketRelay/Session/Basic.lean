import PacketRelay.Frame.Decoder
import PacketRelay.Kernel.Handle
import PacketRelay.Totals

/-!
One connected client, and the line it is reached by: its session, its end of
the stream and the record. `send` and `flush` never leave a frame cut in the
middle of the stream: what a write did not take is kept and goes out first.
-/

namespace PacketRelay

structure Session where
  id : Nat
  label : Nat
  decoder : Frame.Decoder := Frame.Decoder.fresh
  connected : Bool := true
  /-- The unwritten tail of at most one frame. -/
  pending : Bytes := []
  tally : Tally := {}

namespace Session

def wantsWrite (session : Session) : Bool :=
  !session.pending.isEmpty

def countSent (session : Session) : Session :=
  { session with tally.sent := session.tally.sent + 1 }

def countDropped (session : Session) : Session :=
  { session with tally.dropped := session.tally.dropped + 1 }

def countReceived (session : Session) : Session :=
  { session with tally.received := session.tally.received + 1 }

def countForwarded (session : Session) : Session :=
  { session with tally.forwarded := session.tally.forwarded + 1 }

end Session

inductive Sending where
  | sent
  | partly
  | dropped
  | closed (parting : Parting)
  deriving DecidableEq, Repr

structure Line where
  session : Session
  stream : Kernel.Endpoint
  record : Record

namespace Line

def handle (line : Line) : Kernel.Handle :=
  ⟨.client line.session.label, line.stream, line.record⟩

def withHandle (line : Line) (handle : Kernel.Handle) : Line :=
  { line with stream := handle.endpoint, record := handle.record }

def update (line : Line) (change : Session → Session) : Line :=
  { line with session := change line.session }

def note (line : Line) (notice : Log.Notice) : Line :=
  { line with record := line.record.note notice }

def disconnect (line : Line) : Line :=
  line.update fun session => { session with connected := false }

def drainPending (line : Line) : Except Errno Unit × Line :=
  if _ : line.session.pending = [] then (.ok (), line)
  else
    match line.handle.write line.session.pending with
    | (.ok 0, handle) => (.ok (), line.withHandle handle)
    | (.ok (taken + 1), handle) =>
        let shorter := (line.withHandle handle).update fun session =>
          { session with pending := session.pending.drop (taken + 1) }
        shorter.drainPending
    | (.error errno, handle) =>
        if errno = .again then (.ok (), line.withHandle handle)
        else (.error errno, (line.withHandle handle).disconnect)
termination_by line.session.pending.length
decreasing_by
  have somePending := List.length_pos_iff.mpr ‹¬line.session.pending = []›
  simp only [update, withHandle, List.length_drop]
  omega

def flush (line : Line) : Except Parting Unit × Line :=
  match line.drainPending with
  | (.error errno, after) => (.error (.io errno), after)
  | (.ok (), after) =>
      if line.session.wantsWrite && !after.session.wantsWrite then
        (.ok (), after.note (.caughtUp line.session.id))
      else
        (.ok (), after)

def offer (frame : Bytes) (line : Line) : Sending × Line :=
  match line.handle.write frame with
  | (.ok taken, handle) =>
      let after := line.withHandle handle
      if taken = frame.length then (.sent, after.update Session.countSent)
      else if taken = 0 then (.dropped, after.update Session.countDropped)
      else
        (.partly, after.update fun session =>
          { session.countSent with pending := session.pending ++ frame.drop taken })
  | (.error errno, handle) =>
      let after := line.withHandle handle
      if errno = .again then (.dropped, after.update Session.countDropped)
      else (.closed (.io errno), after.disconnect)

/-- Offers one encoded frame without waiting. While a tail is pending it goes
first, and the frame is dropped unless the whole tail went out. -/
def send (frame : Bytes) (line : Line) : Sending × Line :=
  if !line.session.connected then (.dropped, line)
  else if !line.session.wantsWrite then line.offer frame
  else
    match line.flush with
    | (.error parting, after) => (.closed parting, after)
    | (.ok (), after) =>
        if after.session.wantsWrite then (.dropped, after.update Session.countDropped)
        else after.offer frame

end Line
end PacketRelay
