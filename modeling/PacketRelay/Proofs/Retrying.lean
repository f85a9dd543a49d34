import PacketRelay.Kernel.Handle

/-!
What a call that is repeated while it is interrupted leaves on the record: the
interrupted attempts, and then the one that counts. Neither the result nor the
endpoint afterwards depends on what was on the record before.
-/

namespace PacketRelay

namespace Record

def onto (later earlier : Record) : Record :=
  ⟨later.calls ++ earlier.calls, later.notices ++ earlier.notices⟩

theorem onto_calls (later earlier : Record) :
    (later.onto earlier).calls = later.calls ++ earlier.calls := rfl

theorem onto_onto (latest later earlier : Record) :
    (latest.onto later).onto earlier = latest.onto (later.onto earlier) := by
  simp [onto]

def ofCalls (calls : List Kernel.Call) : Record := ⟨calls, []⟩

end Record

namespace Kernel.Handle

variable {α : Type}

/-- The last attempt, and those that were interrupted before it. -/
def attempts (call : Except Errno α → Call) (result : Except Errno α) (interruptions : Nat) :
    List Call :=
  call result :: List.replicate interruptions (call (.error .interrupted))

def attempt (act : Endpoint → Except Errno α × Endpoint) (call : Except Errno α → Call)
    (again : Handle → Except Errno α × Handle) (handle : Handle) : Except Errno α × Handle :=
  match act handle.endpoint with
  | (.ok value, endpoint) => (.ok value, handle.after endpoint (call (.ok value)))
  | (.error errno, endpoint) =>
      let next := handle.after endpoint (call (.error errno))
      if errno = .interrupted then again next else (.error errno, next)

-- The three retry loops differ in the act they repeat and in what is left to be
-- interrupted; each is an `attempt` of itself.
theorem attempt_spec (act : Endpoint → Except Errno α × Endpoint)
    (call : Descriptor → Except Errno α → Call) (left : Endpoint → Nat)
    (shorter : ∀ endpoint, (act endpoint).1 = .error .interrupted →
      left (act endpoint).2 < left endpoint)
    (loop : Handle → Except Errno α × Handle)
    (unfolds : ∀ handle, loop handle = attempt act (call handle.descriptor) loop handle)
    (descriptor : Descriptor) (endpoint : Endpoint) :
    ∃ last interruptions, (act last).1 ≠ .error .interrupted ∧
      ∀ record, loop ⟨descriptor, endpoint, record⟩ =
        ((act last).1, ⟨descriptor, (act last).2,
          (Record.ofCalls (attempts (call descriptor) (act last).1 interruptions)).onto
            record⟩) := by
  -- Nothing here looks at the record, so it is fixed what the loop does before one is given.
  generalize size : left endpoint = n
  induction n using Nat.strongRecOn generalizing endpoint with
  | ind n ih =>
      by_cases interrupted : (act endpoint).1 = .error .interrupted
      · obtain ⟨last, interruptions, final, outcome⟩ :=
          ih (left (act endpoint).2) (size ▸ shorter endpoint interrupted) (act endpoint).2 rfl
        refine ⟨last, interruptions + 1, final, ?_⟩
        intro record
        have made : act endpoint = (.error .interrupted, (act endpoint).2) :=
          Prod.ext interrupted rfl
        rw [unfolds, attempt, made]
        simp only [↓reduceIte, Handle.after]
        rw [outcome]
        simp [attempts, Record.onto, Record.ofCalls, Record.call, List.replicate_succ']
      · refine ⟨endpoint, 0, interrupted, ?_⟩
        intro record
        rw [unfolds, attempt]
        cases made : act endpoint with
        | mk result after =>
            cases result with
            | ok value =>
                simp [Handle.after, attempts, Record.onto, Record.ofCalls, Record.call]
            | error errno =>
                have final : errno ≠ .interrupted := by simpa [made] using interrupted
                simp [final, Handle.after, attempts, Record.onto, Record.ofCalls, Record.call]

theorem write_unfolds (bytes : Bytes) (handle : Handle) :
    handle.write bytes = attempt (Endpoint.write bytes) (.write handle.descriptor bytes)
      (Handle.write bytes) handle := by
  rw [Handle.write]
  split <;> simp_all [attempt]

theorem readStream_unfolds (size : Nat) (handle : Handle) :
    handle.readStream size = attempt (Endpoint.readStream size) (.read handle.descriptor size)
      (Handle.readStream size) handle := by
  rw [Handle.readStream]
  split <;> simp_all [attempt]

theorem readPacket_unfolds (size : Nat) (handle : Handle) :
    handle.readPacket size = attempt (Endpoint.readPacket size) (.read handle.descriptor size)
      (Handle.readPacket size) handle := by
  rw [Handle.readPacket]
  split <;> simp_all [attempt]

theorem write_spec (bytes : Bytes) (descriptor : Descriptor) (endpoint : Endpoint) :
    ∃ last interruptions, (Endpoint.write bytes last).1 ≠ .error .interrupted ∧
      ∀ record, Handle.write bytes ⟨descriptor, endpoint, record⟩ =
        ((Endpoint.write bytes last).1, ⟨descriptor, (Endpoint.write bytes last).2,
          (Record.ofCalls (attempts (.write descriptor bytes) (Endpoint.write bytes last).1
            interruptions)).onto record⟩) :=
  attempt_spec (Endpoint.write bytes) (.write · bytes) (·.outbound.length)
    (Endpoint.write_interrupted bytes) (Handle.write bytes) (write_unfolds bytes) descriptor
    endpoint

theorem readStream_spec (size : Nat) (descriptor : Descriptor) (endpoint : Endpoint) :
    ∃ last interruptions, (Endpoint.readStream size last).1 ≠ .error .interrupted ∧
      ∀ record, Handle.readStream size ⟨descriptor, endpoint, record⟩ =
        ((Endpoint.readStream size last).1, ⟨descriptor, (Endpoint.readStream size last).2,
          (Record.ofCalls (attempts (.read descriptor size) (Endpoint.readStream size last).1
            interruptions)).onto record⟩) :=
  attempt_spec (Endpoint.readStream size) (.read · size) (·.inbound.length)
    (Endpoint.readStream_interrupted size) (Handle.readStream size) (readStream_unfolds size)
    descriptor endpoint

theorem readPacket_spec (size : Nat) (descriptor : Descriptor) (endpoint : Endpoint) :
    ∃ last interruptions, (Endpoint.readPacket size last).1 ≠ .error .interrupted ∧
      ∀ record, Handle.readPacket size ⟨descriptor, endpoint, record⟩ =
        ((Endpoint.readPacket size last).1, ⟨descriptor, (Endpoint.readPacket size last).2,
          (Record.ofCalls (attempts (.read descriptor size) (Endpoint.readPacket size last).1
            interruptions)).onto record⟩) :=
  attempt_spec (Endpoint.readPacket size) (.read · size) (·.inbound.length)
    (Endpoint.readPacket_interrupted size) (Handle.readPacket size) (readPacket_unfolds size)
    descriptor endpoint

end Kernel.Handle

/-! ## No read brings more than it asks for -/

namespace Kernel

variable {size : Nat} {bytes : Bytes}

theorem Endpoint.readStream_fits {endpoint : Endpoint}
    (made : (endpoint.readStream size).1 = .ok bytes) : bytes.length ≤ size := by
  unfold readStream at made
  split at made
  · cases made
    exact Nat.zero_le size
  · split at made
    · cases made
    · cases made
    · cases made
      exact Nat.zero_le size
    · next data later _ =>
        split at made
        · next noneLeft =>
            cases made
            exact List.drop_eq_nil_iff.mp noneLeft
        · cases made
          exact List.length_take_le size data

theorem Endpoint.readPacket_fits {endpoint : Endpoint}
    (made : (endpoint.readPacket size).1 = .ok bytes) : bytes.length ≤ size := by
  unfold readPacket at made
  split at made
  · cases made
    exact Nat.zero_le size
  · split at made
    · cases made
    · cases made
    · cases made
      exact Nat.zero_le size
    · next data later _ =>
        cases made
        exact List.length_take_le size data

theorem Handle.readStream_fits {handle : Handle} (made : (handle.readStream size).1 = .ok bytes) :
    bytes.length ≤ size := by
  obtain ⟨last, _, _, outcome⟩ := readStream_spec size handle.descriptor handle.endpoint
  have loop : handle.readStream size = _ := outcome handle.record
  rw [loop] at made
  exact Endpoint.readStream_fits made

theorem Handle.readPacket_fits {handle : Handle} (made : (handle.readPacket size).1 = .ok bytes) :
    bytes.length ≤ size := by
  obtain ⟨last, _, _, outcome⟩ := readPacket_spec size handle.descriptor handle.endpoint
  have loop : handle.readPacket size = _ := outcome handle.record
  rw [loop] at made
  exact Endpoint.readPacket_fits made

end Kernel
end PacketRelay
