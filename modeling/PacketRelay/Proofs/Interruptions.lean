import PacketRelay.Kernel.Basic
import PacketRelay.Proofs.Retrying

/-!
Interruptions. What is interrupted is tried again, so a call comes to what it
would come to if no interruption were left at its endpoint, and leaves the
endpoint as it would be left then, but for interruptions further on.
-/

namespace PacketRelay

namespace Kernel

def Arrival.isInterruption : Arrival → Bool
  | .failure errno => errno = .interrupted
  | .data _ | .ended => false

def Intake.isInterruption : Intake → Bool
  | .failure errno => errno = .interrupted
  | .upTo _ | .everything => false

def Knock.isInterruption : Knock → Bool
  | .failure errno => errno = .interrupted
  | .connection .. => false

def Endpoint.calm (endpoint : Endpoint) : Endpoint :=
  { endpoint with
    inbound := endpoint.inbound.filter (!·.isInterruption)
    outbound := endpoint.outbound.filter (!·.isInterruption) }

def Endpoint.Silent (endpoint : Endpoint) : Prop :=
  ∀ arrival ∈ endpoint.inbound, arrival.isInterruption = true

def Endpoint.Blocked (endpoint : Endpoint) : Prop :=
  (∀ intake ∈ endpoint.outbound, intake.isInterruption = true) ∧ endpoint.room = some 0

theorem Endpoint.silent_iff (endpoint : Endpoint) :
    endpoint.Silent ↔ endpoint.calm.inbound = [] := by
  simp [Silent, calm]

theorem Endpoint.blocked_iff (endpoint : Endpoint) :
    endpoint.Blocked ↔ endpoint.calm.outbound = [] ∧ endpoint.calm.room = some 0 := by
  simp [Blocked, calm]

/-- A call that moved nothing and changed nothing: it was interrupted, there was
nothing to be done yet, or it only asked. -/
def Call.isIdle : Call → Bool
  | .read _ _ (.error errno) | .write _ _ (.error errno) | .accept (.error errno) =>
      errno = .again || errno = .interrupted
  | .poll .. => true
  | _ => false

end Kernel

open Kernel (Call Descriptor Endpoint Handle)

/-! ## Records -/

def Record.effects (record : Record) : List Call :=
  record.calls.filter (!·.isIdle)

namespace Record

variable {one two : Record} {made : Call}

theorem effects_idle (record : Record) (idle : made.isIdle = true) :
    (record.call made).effects = record.effects := by
  simp [effects, call, idle]

theorem effects_call (same : one.effects = two.effects) (made : Call) :
    (one.call made).effects = (two.call made).effects := by
  unfold effects at same ⊢
  simp only [call, List.filter_cons, same]

theorem effects_onto (same : one.effects = two.effects) (new : Record) :
    (new.onto one).effects = (new.onto two).effects := by
  unfold effects at same ⊢
  simp only [onto, List.filter_append, same]

end Record

/-! ## What two runs come to -/

structure Concur {α σ : Type} (ends : σ → σ → Prop) (one two : α × σ) : Prop where
  result : one.1 = two.1
  after : ends one.2 two.2

theorem Concur.follow {α σ : Type} {ends : σ → σ → Prop} {one two : α × σ} {result : α} {last : σ}
    (concur : Concur ends one two) (made : one = (result, last)) :
    ∃ other, two = (result, other) ∧ ends last other := by
  obtain ⟨value, other⟩ := two
  cases made
  obtain ⟨rfl, after⟩ := concur
  exact ⟨other, rfl, after⟩

/-! ## Retries -/

/-- Of the interruptions at an endpoint an act uses up one, or it does not see any. -/
inductive Kernel.Endpoint.Steady {α : Type} (act : Endpoint → Except Errno α × Endpoint)
    (endpoint : Endpoint) : Prop
  | used (interrupted : (act endpoint).1 = .error .interrupted)
      (left : (act endpoint).2.calm = endpoint.calm)
  | unseen (final : (act endpoint).1 ≠ .error .interrupted)
      (same : act endpoint.calm = ((act endpoint).1, (act endpoint).2.calm))

namespace Kernel.Handle

variable {α : Type}

/-- A loop that repeats an act as long as it is interrupted. -/
structure Retries (act : Endpoint → Except Errno α × Endpoint)
    (call : Descriptor → Except Errno α → Call) (loop : Handle → Except Errno α × Handle) :
    Prop where
  unfolds : ∀ handle, loop handle = attempt act (call handle.descriptor) loop handle
  shorter : ∃ left : Endpoint → Nat, ∀ endpoint, (act endpoint).1 = .error .interrupted →
    left (act endpoint).2 < left endpoint
  steady : ∀ endpoint, Endpoint.Steady act endpoint
  idle : ∀ descriptor, (call descriptor (.error .interrupted)).isIdle = true

namespace Retries

variable {act : Endpoint → Except Errno α × Endpoint}
  {call : Descriptor → Except Errno α → Call} {loop : Handle → Except Errno α × Handle}

theorem again (retries : Retries act call loop) {handle : Handle}
    (interrupted : (act handle.endpoint).1 = .error .interrupted) :
    loop handle = loop (handle.after (act handle.endpoint).2
      (call handle.descriptor (.error .interrupted))) := by
  have made : act handle.endpoint = (.error .interrupted, (act handle.endpoint).2) :=
    Prod.ext interrupted rfl
  rw [retries.unfolds handle, attempt, made]
  rfl

theorem last (retries : Retries act call loop) {handle : Handle}
    (final : (act handle.endpoint).1 ≠ .error .interrupted) :
    loop handle = ((act handle.endpoint).1, handle.after (act handle.endpoint).2
      (call handle.descriptor (act handle.endpoint).1)) := by
  rw [retries.unfolds handle, attempt]
  generalize act handle.endpoint = made at final ⊢
  obtain ⟨result, after⟩ := made
  cases result with
  | ok value => rfl
  | error errno =>
      have other : errno ≠ .interrupted := fun same => final (congrArg _ same)
      exact if_neg other

theorem along (retries : Retries act call loop) {holds : Handle → Prop}
    (final : ∀ handle, (act handle.endpoint).1 ≠ .error .interrupted → holds handle)
    (interrupted : ∀ handle, (act handle.endpoint).1 = .error .interrupted →
      holds (handle.after (act handle.endpoint).2 (call handle.descriptor (.error .interrupted))) →
      holds handle) (handle : Handle) : holds handle := by
  obtain ⟨left, shorter⟩ := retries.shorter
  generalize size : left handle.endpoint = n
  induction n using Nat.strongRecOn generalizing handle with
  | ind n ih =>
      by_cases again : (act handle.endpoint).1 = .error .interrupted
      · exact interrupted handle again (ih _ (size ▸ shorter handle.endpoint again) _ rfl)
      · exact final handle again

/-- The loop comes to what the act comes to without interruptions. -/
theorem calm (retries : Retries act call loop) (handle : Handle) :
    (loop handle).1 = (act handle.endpoint.calm).1 ∧
      (loop handle).2.descriptor = handle.descriptor ∧
      (loop handle).2.endpoint.calm = (act handle.endpoint.calm).2 ∧
      (loop handle).2.record.effects =
        (handle.record.call (call handle.descriptor (act handle.endpoint.calm).1)).effects := by
  induction handle using retries.along with
  | final handle final =>
      cases retries.steady handle.endpoint with
      | used interrupted => exact absurd interrupted final
      | unseen _ same =>
          rw [retries.last final, same]
          exact ⟨rfl, rfl, rfl, rfl⟩
  | interrupted handle interrupted ih =>
      cases retries.steady handle.endpoint with
      | unseen final => exact absurd interrupted final
      | used _ left =>
          have unheard := Record.effects_idle handle.record (retries.idle handle.descriptor)
          rw [retries.again interrupted]
          simp only [after, left] at ih ⊢
          exact ⟨ih.1, ih.2.1, ih.2.2.1, ih.2.2.2.trans (Record.effects_call unheard _)⟩

theorem keeps (retries : Retries act call loop) {holds : Endpoint → Prop}
    (kept : ∀ endpoint, holds endpoint → holds (act endpoint).2) (handle : Handle)
    (start : holds handle.endpoint) : holds (loop handle).2.endpoint := by
  induction handle using retries.along with
  | final handle final =>
      rw [retries.last final]
      exact kept _ start
  | interrupted handle interrupted ih =>
      rw [retries.again interrupted]
      exact ih (kept _ start)

/-- The attempt that counts starts from an endpoint of which all that the act keeps still holds. -/
theorem settles (retries : Retries act call loop) {holds : Endpoint → Prop}
    (kept : ∀ endpoint, holds endpoint → holds (act endpoint).2) (handle : Handle)
    (start : holds handle.endpoint) :
    ∃ last, holds last ∧ (act last).1 ≠ .error .interrupted ∧
      (loop handle).1 = (act last).1 ∧ (loop handle).2.endpoint = (act last).2 := by
  induction handle using retries.along with
  | final handle final =>
      rw [retries.last final]
      exact ⟨_, start, final, rfl, rfl⟩
  | interrupted handle interrupted ih =>
      rw [retries.again interrupted]
      exact ih (kept _ start)

end Retries
end Kernel.Handle

/-! ## Reading and writing -/

namespace Kernel.Endpoint

theorem steady_write (bytes : Bytes) (endpoint : Endpoint) :
    Steady (Endpoint.write bytes) endpoint := by
  obtain ⟨inbound, outbound, room, forced⟩ := endpoint
  cases outbound with
  | nil =>
      rcases room with _ | _ | left
      · exact .unseen (by simp [write]) rfl
      · exact .unseen (by simp [write, Errno.again, Errno.interrupted]) rfl
      · exact .unseen (by simp [write]) rfl
  | cons intake later =>
      cases intake with
      | failure errno =>
          by_cases interrupted : errno = .interrupted
          · exact .used (by simp [write, interrupted])
              (by simp [write, calm, Intake.isInterruption, interrupted])
          · exact .unseen (by simp [write, interrupted])
              (by simp [write, calm, Intake.isInterruption, interrupted])
      | upTo | everything =>
          exact .unseen (by simp [write]) (by simp [write, calm, Intake.isInterruption])

theorem steady_readStream (size : Nat) (endpoint : Endpoint) :
    Steady (Endpoint.readStream size) endpoint := by
  by_cases sized : size = 0
  · exact .unseen (by simp [readStream, sized]) (by simp [readStream, sized])
  obtain ⟨inbound, outbound, room, forced⟩ := endpoint
  cases inbound with
  | nil =>
      exact .unseen (by simp [readStream, sized, Errno.again, Errno.interrupted])
        (by simp [readStream, sized, calm])
  | cons arrival later =>
      cases arrival with
      | failure errno =>
          by_cases interrupted : errno = .interrupted
          · exact .used (by simp [readStream, sized, interrupted])
              (by simp [readStream, sized, calm, Arrival.isInterruption, interrupted])
          · exact .unseen (by simp [readStream, sized, interrupted])
              (by simp [readStream, sized, calm, Arrival.isInterruption, interrupted])
      | ended =>
          exact .unseen (by simp [readStream, sized])
            (by simp [readStream, sized, calm, Arrival.isInterruption])
      | data bytes =>
          cases left : bytes.drop size <;>
            exact .unseen (by simp [readStream, sized, left])
              (by simp [readStream, sized, calm, Arrival.isInterruption, left])

theorem steady_readPacket (size : Nat) (endpoint : Endpoint) :
    Steady (Endpoint.readPacket size) endpoint := by
  by_cases sized : size = 0
  · exact .unseen (by simp [readPacket, sized]) (by simp [readPacket, sized])
  obtain ⟨inbound, outbound, room, forced⟩ := endpoint
  cases inbound with
  | nil =>
      exact .unseen (by simp [readPacket, sized, Errno.again, Errno.interrupted])
        (by simp [readPacket, sized, calm])
  | cons arrival later =>
      cases arrival with
      | failure errno =>
          by_cases interrupted : errno = .interrupted
          · exact .used (by simp [readPacket, sized, interrupted])
              (by simp [readPacket, sized, calm, Arrival.isInterruption, interrupted])
          · exact .unseen (by simp [readPacket, sized, interrupted])
              (by simp [readPacket, sized, calm, Arrival.isInterruption, interrupted])
      | ended | data =>
          exact .unseen (by simp [readPacket, sized])
            (by simp [readPacket, sized, calm, Arrival.isInterruption])

end Kernel.Endpoint

namespace Kernel.Handle

theorem write_retries (bytes : Bytes) :
    Retries (Endpoint.write bytes) (.write · bytes) (Handle.write bytes) where
  unfolds := write_unfolds bytes
  shorter := ⟨(·.outbound.length), Endpoint.write_interrupted bytes⟩
  steady := Endpoint.steady_write bytes
  idle _ := rfl

theorem readStream_retries (size : Nat) :
    Retries (Endpoint.readStream size) (.read · size) (Handle.readStream size) where
  unfolds := readStream_unfolds size
  shorter := ⟨(·.inbound.length), Endpoint.readStream_interrupted size⟩
  steady := Endpoint.steady_readStream size
  idle _ := rfl

theorem readPacket_retries (size : Nat) :
    Retries (Endpoint.readPacket size) (.read · size) (Handle.readPacket size) where
  unfolds := readPacket_unfolds size
  shorter := ⟨(·.inbound.length), Endpoint.readPacket_interrupted size⟩
  steady := Endpoint.steady_readPacket size
  idle _ := rfl

structure Matches (one two : Handle) : Prop where
  descriptor : one.descriptor = two.descriptor
  endpoint : one.endpoint.calm = two.endpoint.calm
  record : one.record.effects = two.record.effects

/-- Interruptions do not change what a loop comes to. -/
theorem Retries.concurs {α : Type} {act : Endpoint → Except Errno α × Endpoint}
    {call : Descriptor → Except Errno α → Call} {loop : Handle → Except Errno α × Handle}
    (retries : Retries act call loop) {one two : Handle} (same : one.Matches two) :
    Concur Matches (loop one) (loop two) := by
  obtain ⟨result, descriptor, endpoint, record⟩ := retries.calm one
  obtain ⟨alsoResult, alsoDescriptor, alsoEndpoint, alsoRecord⟩ := retries.calm two
  rw [← same.descriptor, ← same.endpoint] at alsoRecord
  constructor
  · rw [result, alsoResult, same.endpoint]
  · constructor
    · rw [descriptor, alsoDescriptor, same.descriptor]
    · rw [endpoint, alsoEndpoint, same.endpoint]
    · rw [record, alsoRecord]
      exact Record.effects_call same.record _

theorem Retries.idles {α : Type} {act : Endpoint → Except Errno α × Endpoint}
    {call : Descriptor → Except Errno α → Call} {loop : Handle → Except Errno α × Handle}
    (retries : Retries act call loop) {handle : Handle} {result : Except Errno α}
    (nothing : act handle.endpoint.calm = (result, handle.endpoint.calm))
    (idle : (call handle.descriptor result).isIdle = true) :
    Concur Matches (loop handle) (result, handle) := by
  obtain ⟨same, descriptor, endpoint, record⟩ := retries.calm handle
  rw [nothing] at same endpoint record
  rw [Record.effects_idle _ idle] at record
  exact ⟨same, descriptor, endpoint, record⟩

end Kernel.Handle
end PacketRelay
