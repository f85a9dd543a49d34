import PacketRelay.Proofs.Interruptions
import PacketRelay.Proofs.Service
import PacketRelay.Settings.Basic

/-!
What waits at the tunnel, and how far one serving gets. A packet is some bytes; all
else but an interruption makes a serving stop, and is used up by that. Main statement:
a read skips the interruptions in front and takes one entry more, if there is one.
-/

namespace PacketRelay

namespace Kernel.Arrival

def passes : Arrival → Bool
  | .data bytes => !bytes.isEmpty
  | .failure errno => errno = .interrupted
  | .ended => false

def packet? : Arrival → Option Bytes
  | .data bytes => some bytes
  | .failure _ | .ended => none

def packets (queue : List Arrival) : List Bytes :=
  (queue.takeWhile passes).filterMap packet?

def given (mode : ReadMode) (queue : List Arrival) : List Bytes :=
  match mode with
  | .drain => packets queue
  | .single => (packets queue).take 1

def ungiven (mode : ReadMode) (queue : List Arrival) : List Arrival :=
  match mode with
  | .drain => (queue.dropWhile passes).tail
  | .single => (queue.dropWhile isInterruption).tail

variable {front : List Arrival} {stop : Arrival}

/-- A drain takes the packets in front of what makes it stop, and what is behind that waits. -/
theorem drain_stops (frontPasses : ∀ arrival ∈ front, arrival.passes = true)
    (stops : stop.passes = false) (later : List Arrival) :
    given .drain (front ++ stop :: later) = front.filterMap packet? ∧
      ungiven .drain (front ++ stop :: later) = later := by
  have taken : (front ++ stop :: later).takeWhile passes = front := by
    rw [List.takeWhile_append_of_pos frontPasses, List.takeWhile_cons_of_neg (by simp [stops]),
      List.append_nil]
  have dropped : (front ++ stop :: later).dropWhile passes = stop :: later := by
    rw [List.dropWhile_append_of_pos frontPasses, List.dropWhile_cons_of_neg (by simp [stops])]
  constructor
  · rw [given, packets, taken]
  · rw [ungiven, dropped, List.tail_cons]

end Kernel.Arrival

open Kernel (Arrival Endpoint Handle)
open Kernel.Arrival (given packets ungiven)

namespace Tunnel

inductive Fetch : List Arrival → Except Errno (Option Bytes) → List Arrival → Prop
  | nothing : Fetch [] (.ok none) []
  | stopped {stop : Arrival} {received : Except Errno (Option Bytes)} (later : List Arrival)
      (stops : stop.passes = false) (lacking : ∀ packet, received ≠ .ok (some packet)) :
      Fetch (stop :: later) received later
  | packet {packet : Bytes} (later : List Arrival) (someBytes : packet ≠ []) :
      Fetch (.data packet :: later) (.ok (some (packet.take maxPacketSize))) later
  | interrupted {queue left : List Arrival} {received : Except Errno (Option Bytes)}
      (again : Fetch queue received left) : Fetch (.failure .interrupted :: queue) received left

theorem readPacket_fetch (endpoint : Endpoint)
    (final : (endpoint.readPacket maxPacketSize).1 ≠ .error .interrupted) :
    Fetch endpoint.inbound (gain (endpoint.readPacket maxPacketSize).1)
      (endpoint.readPacket maxPacketSize).2.inbound := by
  obtain ⟨inbound, outbound, room, forced⟩ := endpoint
  cases inbound with
  | nil => exact .nothing
  | cons arrival later =>
      cases arrival with
      | failure errno =>
          have other : errno ≠ .interrupted := by
            rintro rfl
            exact final rfl
          refine .stopped later (decide_eq_false other) fun packet brought => ?_
          cases (gain_eq_some brought).1
      | ended => exact .stopped later rfl (by simp [Endpoint.readPacket, maxPacketSize, gain])
      | data bytes =>
          cases bytes with
          | nil => exact .stopped later rfl (by simp [Endpoint.readPacket, maxPacketSize, gain])
          | cons byte rest => exact .packet later (List.cons_ne_nil byte rest)

theorem receive_fetch (handle : Handle) :
    Fetch handle.endpoint.inbound (receive maxPacketSize handle).1
      (receive maxPacketSize handle).2.endpoint.inbound := by
  rw [receive_eq]
  induction handle using (Handle.readPacket_retries maxPacketSize).along with
  | final handle final =>
      rw [(Handle.readPacket_retries maxPacketSize).last final]
      exact readPacket_fetch handle.endpoint final
  | interrupted handle interrupted ih =>
      rw [(Handle.readPacket_retries maxPacketSize).again interrupted]
      obtain ⟨descriptor, ⟨inbound, outbound, room, forced⟩, record⟩ := handle
      cases inbound with
      | nil => cases interrupted
      | cons arrival later =>
          cases arrival with
          | failure errno =>
              cases interrupted
              exact .interrupted ih
          | ended | data => cases interrupted

namespace Fetch

variable {queue left : List Arrival} {received : Except Errno (Option Bytes)} {bytes : Bytes}

theorem split (fetch : Fetch queue received left) : ∃ interruptions taken,
    queue = List.replicate interruptions (.failure .interrupted) ++ taken ++ left ∧
      taken.length ≤ 1 := by
  induction fetch with
  | nothing => exact ⟨0, [], rfl, Nat.zero_le 1⟩
  | @stopped stop => exact ⟨0, [stop], rfl, Nat.le_refl 1⟩
  | @packet packet => exact ⟨0, [.data packet], rfl, Nat.le_refl 1⟩
  | interrupted _ ih =>
      obtain ⟨interruptions, taken, whole, one⟩ := ih
      exact ⟨interruptions + 1, taken, by rw [whole, List.replicate_succ]; rfl, one⟩

theorem lacks (fetch : Fetch queue received left)
    (lacking : ∀ packet, received ≠ .ok (some packet)) (mode : ReadMode) :
    given mode queue = [] ∧ ungiven mode queue = left := by
  induction fetch with
  | nothing => cases mode <;> exact ⟨rfl, rfl⟩
  | @stopped stop received later stops _ =>
      have goesOn : stop.isInterruption = false := by
        cases stop with
        | failure errno => exact stops
        | data | ended => rfl
      cases mode <;> simp [given, packets, ungiven, stops, goesOn]
  | packet => exact absurd rfl (lacking _)
  | interrupted _ ih =>
      cases mode <;> exact ih lacking

/-- A packet is cut to the size of the read. It is the first that is given, and a drain
goes on from there. -/
theorem gives (fetch : Fetch queue (.ok (some bytes)) left) : ∃ packet interruptions,
    packet ≠ [] ∧ bytes = packet.take maxPacketSize ∧
      queue = List.replicate interruptions (.failure .interrupted) ++ .data packet :: left ∧
      (given .single queue = [packet] ∧ ungiven .single queue = left) ∧
      given .drain queue = packet :: given .drain left ∧
        ungiven .drain queue = ungiven .drain left := by
  generalize brought : Except.ok (some bytes) = received at fetch
  induction fetch with
  | nothing => cases brought
  | stopped later stops lacking => exact absurd brought.symm (lacking bytes)
  | @packet packet later someBytes =>
      cases brought
      have passes : (Arrival.data packet).passes = true := by simpa [Arrival.passes]
      refine ⟨packet, 0, someBytes, rfl, rfl, ⟨?_, rfl⟩, ?_, ?_⟩
      · simp [given, packets, passes, Arrival.packet?]
      · simp [given, packets, passes, Arrival.packet?]
      · simp [ungiven, passes]
  | interrupted _ ih =>
      obtain ⟨packet, interruptions, someBytes, cut, whole, single, drain⟩ := ih brought
      exact ⟨packet, interruptions + 1, someBytes, cut,
        by rw [whole, List.replicate_succ]; rfl, single, drain⟩

end Fetch
end Tunnel
end PacketRelay
