import Mathlib.Algebra.Ring.Nat
import PacketRelay.Proofs.Independence
import PacketRelay.Proofs.Interruptions
import PacketRelay.Proofs.Lockstep

/-!
A client's data read in portions. A serving looks at nothing that was recorded before
it, and keeps nothing but what is in the session. Main statement: reading with one
budget and, if that was spent, going on with another is reading with both at once, but
for the notice that the first was spent.
-/

namespace PacketRelay

open Kernel (Handle)

/-- The one notice in which reading in portions differs from reading at once. -/
def Log.Notice.isBudgetSpent : Log.Notice → Bool
  | .budgetSpent _ => true
  | _ => false

def Record.hushed (record : Record) : Record :=
  { record with notices := record.notices.filter (!·.isBudgetSpent) }

theorem Record.hushed_onto (later earlier : Record) :
    (later.onto earlier).hushed = later.hushed.onto earlier.hushed := by
  simp only [hushed, onto, List.filter_append]

/-! ## What was recorded before -/

theorem Kernel.Handle.readStream_onto (size : Nat) (earlier : Record) (handle : Handle) :
    (handle.onto earlier).readStream size =
      ((handle.readStream size).1, (handle.readStream size).2.onto earlier) := by
  obtain ⟨descriptor, endpoint, record⟩ := handle
  obtain ⟨last, interruptions, _, outcome⟩ := readStream_spec size descriptor endpoint
  simp only [onto, outcome, Record.onto_onto]

theorem Tunnel.transmit_onto (name : String) (packet : Bytes) (earlier : Record)
    (handle : Handle) :
    transmit name packet (handle.onto earlier) =
      ((transmit name packet handle).1, (transmit name packet handle).2.onto earlier) := by
  rw [transmit_eq, transmit_eq, Handle.write_onto]
  simp only [Handle.onto, Record.onto_onto]

namespace Circuit

def onto (earlier : Record) (circuit : Circuit) : Circuit :=
  { circuit with record := circuit.record.onto earlier }

variable (earlier : Record) (name : String)

theorem forwardPacket_onto (packet : Bytes) (circuit : Circuit) :
    (circuit.onto earlier).forwardPacket name packet =
      ((circuit.forwardPacket name packet).1,
        (circuit.forwardPacket name packet).2.onto earlier) := by
  have handle : (circuit.onto earlier).countReceived.tunnelHandle =
      circuit.countReceived.tunnelHandle.onto earlier := rfl
  unfold forwardPacket
  rw [handle, Tunnel.transmit_onto]
  obtain ⟨result, after⟩ := Tunnel.transmit name packet circuit.countReceived.tunnelHandle
  cases result with
  | error errno => rfl
  | ok delivery => cases delivery <;> rfl

theorem forward_onto (input : Bytes) (circuit : Circuit) :
    (circuit.onto earlier).forward name input =
      ((circuit.forward name input).1, (circuit.forward name input).2.onto earlier) := by
  have decoder (circuit : Circuit) :
      (circuit.onto earlier).session.decoder = circuit.session.decoder := rfl
  have update (circuit : Circuit) (next : Frame.Decoder) :
      ((circuit.onto earlier).update fun session => { session with decoder := next }) =
        (circuit.update fun session => { session with decoder := next }).onto earlier := rfl
  fun_induction forward name input circuit with
  | case1 circuit => rw [forward_unfolds, if_pos rfl]
  | case2 input circuit someInput violation next rest decoded =>
      rw [forward_unfolds, if_neg someInput, decoder, decoded]
      rfl
  | case3 input circuit someInput next rest decoded ih =>
      rw [forward_unfolds, if_neg someInput, decoder, decoded]
      exact ih
  | case4 input circuit someInput packet next rest decoded errno after failed =>
      rw [forward_unfolds, if_neg someInput, decoder, decoded]
      simp only [update, forwardPacket_onto, failed]
  | case5 input circuit someInput packet next rest decoded after passed ih =>
      rw [forward_unfolds, if_neg someInput, decoder, decoded]
      simp only [update, forwardPacket_onto, passed]
      exact ih

theorem serve_onto (size budget : Nat) (circuit : Circuit) :
    (circuit.onto earlier).serve name size budget =
      ((circuit.serve name size budget).1, (circuit.serve name size budget).2.onto earlier) := by
  induction budget generalizing circuit with
  | zero => rfl
  | succ budget ih =>
      have handle : (circuit.onto earlier).toLine.handle = circuit.toLine.handle.onto earlier := rfl
      have onward (after : Handle) : (circuit.onto earlier).overStream (after.onto earlier) =
          (circuit.overStream after).onto earlier := rfl
      unfold serve
      rw [handle, Handle.readStream_onto]
      obtain ⟨result, after⟩ := circuit.toLine.handle.readStream size
      cases result with
      | error errno =>
          by_cases again : errno = .again
          · simp only [if_pos again, onward]
          · simp only [if_neg again, onward]
            rfl
      | ok bytes =>
          cases bytes with
          | nil => rfl
          | cons byte rest =>
              simp only [onward, forward_onto]
              obtain ⟨result, ended⟩ := (circuit.overStream after).forward name (byte :: rest)
              cases result with
              | error errno => rfl
              | ok violation =>
                  cases violation with
                  | some violation => rfl
                  | none => exact ih ended

theorem read_onto (size budget : Nat) (circuit : Circuit) :
    (circuit.onto earlier).read name size budget =
      ((circuit.read name size budget).1, (circuit.read name size budget).2.onto earlier) := by
  have session : (circuit.onto earlier).session = circuit.session := rfl
  unfold read
  rw [session, serve_onto]
  split <;> rfl

/-! ## Budgets -/

def hushed (circuit : Circuit) : Circuit :=
  { circuit with record := circuit.record.hushed }

def goOn (name : String) (size budget : Nat) :
    Except Errno Disposition × Circuit → Except Errno Disposition × Circuit
  | (.ok .unfinished, circuit) => circuit.read name size budget
  | ended => ended

abbrev Agree (one two : Except Errno Disposition × Circuit) : Prop :=
  Concur (fun left right => left.hushed = right.hushed) one two

variable {one two : Except Errno Disposition × Circuit}

theorem Agree.trans {three : Except Errno Disposition × Circuit} (first : Agree one two)
    (second : Agree two three) : Agree one three :=
  ⟨first.result.trans second.result, first.after.trans second.after⟩

/-- Such notices make no difference to what is read later. -/
theorem read_hushed (size budget : Nat) {left right : Circuit}
    (same : left.hushed = right.hushed) :
    Agree (left.read name size budget) (right.read name size budget) := by
  let bare (circuit : Circuit) : Circuit := { circuit with record := {} }
  have ontoBare (circuit : Circuit) : (bare circuit).onto circuit.record = circuit := rfl
  have alike : bare left.hushed = bare right.hushed := congrArg bare same
  change bare left = bare right at alike
  have records : left.record.hushed = right.record.hushed := congrArg (·.record) same
  have hushesOnto (earlier : Record) (circuit : Circuit) : (circuit.onto earlier).hushed =
      { circuit with record := circuit.record.hushed.onto earlier.hushed } := by
    rw [← Record.hushed_onto]
    rfl
  rw [← ontoBare left, ← ontoBare right, read_onto, read_onto, alike]
  refine ⟨rfl, ?_⟩
  simp only [hushesOnto, records]

theorem goOn_agree (size budget : Nat) (agree : Agree one two) :
    Agree (goOn name size budget one) (goOn name size budget two) := by
  obtain ⟨result, left⟩ := one
  obtain ⟨other, right⟩ := two
  obtain ⟨same, after⟩ := agree
  obtain rfl : result = other := same
  match result with
  | .ok .unfinished => exact read_hushed name size budget after
  | .ok .idle | .ok (.closed _) | .error _ => exact ⟨rfl, after⟩

-- Each read of the first portion is one of the whole, so the induction is on the first
-- budget; when it is spent, the circuit is the one that reading at once has come to.
theorem serve_add (size first second : Nat) (circuit : Circuit)
    (connected : circuit.session.connected = true) :
    Agree (goOn name size second (circuit.serve name size first))
      (circuit.serve name size (first + second)) := by
  induction first generalizing circuit with
  | zero =>
      have quiet : (circuit.note (.budgetSpent circuit.session.id)).hushed = circuit.hushed := rfl
      have spent := read_hushed name size second quiet
      rw [show circuit.read name size second = circuit.serve name size second from
        if_pos connected] at spent
      rw [Nat.zero_add]
      exact spent
  | succ first ih =>
      rw [Nat.add_right_comm]
      unfold serve
      obtain ⟨result, handle⟩ := circuit.toLine.handle.readStream size
      cases result with
      | error errno =>
          by_cases again : errno = .again
          · simp only [if_pos again]
            exact ⟨rfl, rfl⟩
          · simp only [if_neg again]
            exact ⟨rfl, rfl⟩
      | ok bytes =>
          cases bytes with
          | nil => exact ⟨rfl, rfl⟩
          | cons byte rest =>
              have still := forward_connected name (byte :: rest) (circuit.overStream handle)
              dsimp only
              generalize (circuit.overStream handle).forward name (byte :: rest) = made at still ⊢
              obtain ⟨result, ended⟩ := made
              cases result with
              | error errno => exact ⟨rfl, rfl⟩
              | ok violation =>
                  cases violation with
                  | some violation => exact ⟨rfl, rfl⟩
                  | none => exact ih ended (still.trans connected)

theorem read_add (size first second : Nat) (circuit : Circuit) :
    Agree (goOn name size second (circuit.read name size first))
      (circuit.read name size (first + second)) := by
  unfold read
  split
  · next connected => exact serve_add name size first second circuit connected
  · exact ⟨rfl, rfl⟩

/-- Budgets one after another, each used if and only if the one before was spent, come to
what their sum comes to: the same result, and the same session, stream, tunnel and calls. -/
theorem read_in_portions (name : String) (size first : Nat) (circuit : Circuit) :
    (∀ second,
      let portions := goOn name size second (circuit.read name size first)
      let whole := circuit.read name size (first + second)
      portions.1 = whole.1 ∧ portions.2.hushed = whole.2.hushed) ∧
    ∀ later : List Nat,
      let portions := later.foldl (fun portion budget => goOn name size budget portion)
        (circuit.read name size first)
      let whole := circuit.read name size (first + later.sum)
      portions.1 = whole.1 ∧ portions.2.hushed = whole.2.hushed := by
  constructor
  · intro second
    obtain ⟨result, after⟩ := read_add name size first second circuit
    exact ⟨result, after⟩
  · intro later
    -- What has been read so far is what its budgets come to at once.
    have spread (portion : Except Errno Disposition × Circuit)
        (soFar : Agree portion (circuit.read name size first)) :
        Agree (later.foldl (fun portion budget => goOn name size budget portion) portion)
          (circuit.read name size (first + later.sum)) := by
      induction later generalizing first portion with
      | nil => exact soFar
      | cons budget rest ih =>
          have next := (goOn_agree name size budget soFar).trans
            (read_add name size first budget circuit)
          rw [List.sum_cons, ← Nat.add_assoc]
          exact ih (first + budget) _ next
    obtain ⟨result, after⟩ := spread _ ⟨rfl, rfl⟩
    exact ⟨result, after⟩

/-- Here the first portion ends inside a frame; there is one notice more than at once. -/
example :
    let circuit : Circuit :=
      ⟨⟨{ id := 1, label := 1 }, { inbound := [.data [0, 0, 0, 1], .data [7], .ended] }, {}⟩, {}⟩
    let portions := goOn "tun" 8 1 (circuit.read "tun" 8 1)
    portions.2.session.tally.received = 1 ∧
      portions.2.record.notices.length =
        (circuit.read "tun" 8 2).2.record.notices.length + 1 := by
  decide +kernel

end Circuit
end PacketRelay
