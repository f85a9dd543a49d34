import PacketRelay.Proofs.Ledger
import PacketRelay.Proofs.Service

/-!
A session through any history: frames offered to it, flushes, reads, and a world
that decides anew what its stream and the tunnel will do. Main statement: the
bytes its stream has taken and the tail still pending are the frames that were
sent, in order and nothing else.
-/

namespace PacketRelay

open Kernel (Endpoint)
open History (taken)

inductive Act where
  | send (frame : Bytes)
  | flush
  | read (name : String) (size budget : Nat)
  /-- The world changes what the stream and the tunnel will do. -/
  | rescript (stream tunnel : Endpoint)

structure Account where
  circuit : Circuit
  /-- The frames whose offer ended with `sent` or `partly`, in order. -/
  accepted : List Bytes := []
  /-- How many offers ended with `dropped` while the session was connected. -/
  dropped : Nat := 0

namespace Account

def opening (id label : Nat) (stream tunnel : Endpoint) : Account :=
  { circuit := ⟨⟨{ id, label }, stream, {}⟩, tunnel⟩ }

def offer (frame : Bytes) (account : Account) : Account :=
  let (sending, line) := account.circuit.toLine.send frame
  { circuit := { account.circuit with toLine := line }
    accepted := account.accepted ++ sending.carried frame
    dropped :=
      if account.circuit.session.connected ∧ sending = .dropped then account.dropped + 1
      else account.dropped }

def act : Act → Account → Account
  | .send frame, account => account.offer frame
  | .flush, account =>
      { account with circuit := { account.circuit with toLine := account.circuit.toLine.flush.2 } }
  | .read name size budget, account =>
      { account with circuit := (account.circuit.read name size budget).2 }
  | .rescript stream tunnel, account =>
      { account with circuit := { account.circuit with stream, tunnel } }

def after (acts : List Act) (account : Account) : Account :=
  acts.foldl (fun account made => account.act made) account

structure Balanced (account : Account) : Prop where
  owes : Owes account.circuit.toLine.taken account.accepted account.circuit.session.pending
  sent : account.circuit.session.tally.sent = account.accepted.length
  dropped : account.circuit.session.tally.dropped = account.dropped

theorem opening_balanced (id label : Nat) (stream tunnel : Endpoint) :
    Balanced (opening id label stream tunnel) where
  owes := ⟨rfl, fun someLeft => absurd rfl someLeft⟩
  sent := rfl
  dropped := rfl

theorem offer_balanced (frame : Bytes) (account : Account) (balanced : Balanced account) :
    Balanced (account.offer frame) := by
  have offered := Line.send_offered frame account.circuit.toLine balanced.owes
  by_cases connected : account.circuit.session.connected = true
  · obtain ⟨sent, dropped, _⟩ := Line.send_counts frame account.circuit.toLine connected
    refine ⟨offered.owes, ?_, ?_⟩
    · simp [offer, sent, balanced.sent]
    · simp only [offer, dropped, balanced.dropped, connected, true_and]
      split <;> rfl
  · have ended := Line.send_disconnected frame account.circuit.toLine (by simpa using connected)
    refine ⟨offered.owes, ?_, ?_⟩
    · simp [offer, ended, Sending.carried, balanced.sent]
    · simp [offer, ended, connected, balanced.dropped]

theorem flush_balanced (account : Account) (balanced : Balanced account) :
    Balanced (account.act .flush) := by
  obtain ⟨owes, _⟩ := Line.flush_owes account.circuit.toLine balanced.owes
  obtain ⟨tally, _⟩ := Line.flush_counts account.circuit.toLine
  refine ⟨owes, ?_, ?_⟩
  · simp only [act, tally]
    exact balanced.sent
  · simp only [act, tally]
    exact balanced.dropped

theorem read_balanced (name : String) (size budget : Nat) (account : Account)
    (balanced : Balanced account) : Balanced (account.act (.read name size budget)) := by
  have received := Circuit.read_receives name size budget account.circuit
  obtain ⟨decoder, connected, got, forwarded, session⟩ := received.session
  obtain ⟨new, appended, own⟩ := received.only
  -- Neither a read nor a write to the tunnel puts a byte on the stream.
  have silent : taken account.circuit.session.label new = [] := by
    refine History.taken_eq_nil _ _ fun call member => ?_
    rcases own call member with ⟨size, result, rfl⟩ | ⟨packet, result, rfl⟩ <;> rfl
  have same : (account.act (.read name size budget)).circuit.toLine.taken =
      account.circuit.toLine.taken := by
    simp only [act, Line.taken, Line.calls, received.label, appended, History.taken_append, silent,
      List.append_nil]
  refine ⟨?_, ?_, ?_⟩
  · rw [same]
    simp only [act, session]
    exact balanced.owes
  · simp only [act, session]
    exact balanced.sent
  · simp only [act, session]
    exact balanced.dropped

theorem act_balanced (made : Act) (account : Account) (balanced : Balanced account) :
    Balanced (account.act made) := by
  cases made with
  | send frame => exact offer_balanced frame account balanced
  | flush => exact flush_balanced account balanced
  | read name size budget => exact read_balanced name size budget account balanced
  | rescript stream tunnel => exact ⟨balanced.owes, balanced.sent, balanced.dropped⟩

theorem after_balanced (acts : List Act) (account : Account) (balanced : Balanced account) :
    Balanced (account.after acts) := by
  induction acts generalizing account with
  | nil => exact balanced
  | cons made rest ih => exact ih (account.act made) (act_balanced made account balanced)

theorem act_label (made : Act) (account : Account) :
    (account.act made).circuit.session.label = account.circuit.session.label := by
  cases made with
  | send frame => exact (Line.send_sends frame account.circuit.toLine).label
  | flush => exact (Line.flush_sends account.circuit.toLine).label
  | read name size budget => exact (Circuit.read_receives name size budget account.circuit).label
  | rescript stream tunnel => rfl

theorem act_id (made : Act) (account : Account) :
    (account.act made).circuit.session.id = account.circuit.session.id := by
  cases made with
  | send frame => exact (Line.send_sends frame account.circuit.toLine).id
  | flush => exact (Line.flush_sends account.circuit.toLine).id
  | read name size budget => exact (Circuit.read_receives name size budget account.circuit).id
  | rescript stream tunnel => rfl

theorem after_label (acts : List Act) (account : Account) :
    (account.after acts).circuit.session.label = account.circuit.session.label := by
  induction acts generalizing account with
  | nil => rfl
  | cons made rest ih => exact (ih (account.act made)).trans (act_label made account)

/-- After any history the stream has taken the accepted frames up to the pending
tail, which is a proper part of the last of them, and the counters say so. -/
theorem stream_balances (id label : Nat) (stream tunnel : Endpoint) (acts : List Act) :
    let account := (opening id label stream tunnel).after acts
    let session := account.circuit.session
    taken label account.circuit.record.calls ++ session.pending = account.accepted.flatten ∧
      (session.pending ≠ [] → ∃ last, account.accepted.getLast? = some last ∧
        session.pending <:+ last ∧ session.pending ≠ last) ∧
      session.tally.sent = account.accepted.length ∧
      session.tally.dropped = account.dropped := by
  intro account session
  have balanced := after_balanced acts _ (opening_balanced id label stream tunnel)
  have total := balanced.owes.total
  rw [Line.taken, after_label] at total
  exact ⟨total, balanced.owes.proper, balanced.sent, balanced.dropped⟩

end Account
end PacketRelay
