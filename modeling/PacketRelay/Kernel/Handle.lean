import PacketRelay.Record

/-!
A handle is a descriptor in use: its endpoint and the record of the calls made on
it. A call that is interrupted is made again, and each attempt is remembered.
-/

namespace PacketRelay.Kernel

structure Handle where
  descriptor : Descriptor
  endpoint : Endpoint
  record : Record

namespace Handle

def after (handle : Handle) (endpoint : Endpoint) (made : Call) : Handle :=
  { handle with endpoint, record := handle.record.call made }

def note (handle : Handle) (notice : Log.Notice) : Handle :=
  { handle with record := handle.record.note notice }

def readStream (size : Nat) (handle : Handle) : Except Errno Bytes × Handle :=
  match _ : handle.endpoint.readStream size with
  | (.ok bytes, endpoint) =>
      (.ok bytes, handle.after endpoint (.read handle.descriptor size (.ok bytes)))
  | (.error errno, endpoint) =>
      let next := handle.after endpoint (.read handle.descriptor size (.error errno))
      if _ : errno = .interrupted then next.readStream size else (.error errno, next)
termination_by handle.endpoint.inbound.length
decreasing_by
  have made := ‹handle.endpoint.readStream size = _›
  have shorter := Endpoint.readStream_interrupted size handle.endpoint
  simp_all [after]

def readPacket (size : Nat) (handle : Handle) : Except Errno Bytes × Handle :=
  match _ : handle.endpoint.readPacket size with
  | (.ok bytes, endpoint) =>
      (.ok bytes, handle.after endpoint (.read handle.descriptor size (.ok bytes)))
  | (.error errno, endpoint) =>
      let next := handle.after endpoint (.read handle.descriptor size (.error errno))
      if _ : errno = .interrupted then next.readPacket size else (.error errno, next)
termination_by handle.endpoint.inbound.length
decreasing_by
  have made := ‹handle.endpoint.readPacket size = _›
  have shorter := Endpoint.readPacket_interrupted size handle.endpoint
  simp_all [after]

theorem readPacket_some (size : Nat) (handle : Handle) (bytes : Bytes)
    (success : (handle.readPacket size).1 = .ok bytes) (nonempty : bytes ≠ []) :
    (handle.readPacket size).2.endpoint.inbound.length < handle.endpoint.inbound.length := by
  fun_induction readPacket size handle with
  | case1 handle got endpoint made =>
      have shorter := Endpoint.readPacket_some size handle.endpoint bytes
        (by rw [made]; exact success) nonempty
      simpa [made, after] using shorter
  | case2 handle endpoint made next ih =>
      have shorter := Endpoint.readPacket_interrupted size handle.endpoint
        (by rw [made])
      simp only [made] at shorter
      exact Nat.lt_trans (ih success) shorter
  | case3 => simp at success

def write (bytes : Bytes) (handle : Handle) : Except Errno Nat × Handle :=
  match _ : handle.endpoint.write bytes with
  | (.ok taken, endpoint) =>
      (.ok taken, handle.after endpoint (.write handle.descriptor bytes (.ok taken)))
  | (.error errno, endpoint) =>
      let next := handle.after endpoint (.write handle.descriptor bytes (.error errno))
      if _ : errno = .interrupted then next.write bytes else (.error errno, next)
termination_by handle.endpoint.outbound.length
decreasing_by
  have made := ‹handle.endpoint.write bytes = _›
  have shorter := Endpoint.write_interrupted bytes handle.endpoint
  simp_all [after]

end Handle
end PacketRelay.Kernel
