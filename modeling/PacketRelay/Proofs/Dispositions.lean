import PacketRelay.Proofs.Account
import PacketRelay.Proofs.Failing
import PacketRelay.Proofs.Forwarding
import PacketRelay.Proofs.Holding
import PacketRelay.Proofs.Steadiness

/-!
What a serving of one client takes and how it ends. Each read but the interrupted ones
uses up budget. Main statement: so no more is taken than the budget and the size of a
read allow, and the last read decides how the serving ends; once it has ended the
session, nothing is read from the client or sent to it any more.
-/

namespace PacketRelay

open Kernel (Arrival Call Endpoint Handle)
open PacketRelay.Frame (Decoder Violation parse)
open PacketRelay.Frame.Decoder (Holding)

namespace History

def readingBy (label : Nat) : Call → Option (Except Errno Bytes)
  | .read (.client other) _ (.ok bytes) => if other = label then some (.ok bytes) else none
  | .read (.client other) _ (.error errno) =>
      if other = label ∧ errno ≠ .interrupted then some (.error errno) else none
  | _ => none

def readings (label : Nat) (calls : List Call) : List (Except Errno Bytes) :=
  calls.reverse.filterMap (readingBy label)

def interruptedRead (label : Nat) : Call → Bool
  | .read (.client other) _ (.error errno) => other = label ∧ errno = .interrupted
  | _ => false

def readFrom (label : Nat) : Call → Bool
  | .read (.client other) .. => other = label
  | _ => false

def pieces (readings : List (Except Errno Bytes)) : List Bytes :=
  (readings.map readBytes).filter (· ≠ [])

variable {label : Nat} {new calls : List Call}

theorem readings_append :
    readings label (new ++ calls) = readings label calls ++ readings label new := by
  simp [readings]

theorem readings_writes
    (writes : ∀ call ∈ new, ∃ packet result, call = .write .tunnel packet result) :
    readings label new = [] := by
  simp only [readings, List.filterMap_eq_nil_iff, List.mem_reverse]
  intro call member
  obtain ⟨packet, result, rfl⟩ := writes call member
  rfl

/-- However often it is interrupted, a read from the client is one reading. -/
theorem readings_attempts (size : Nat) {result : Except Errno Bytes}
    (final : result ≠ .error .interrupted) (interruptions : Nat) :
    readings label (Handle.attempts (.read (.client label) size) result interruptions) =
      [result] := by
  have retried : (List.replicate interruptions
      (Call.read (.client label) size (.error .interrupted))).reverse.filterMap (readingBy label) =
        [] := by
    simp [readingBy]
  have last : readingBy label (.read (.client label) size result) = some result := by
    cases result with
    | ok bytes => simp [readingBy]
    | error errno =>
        have other : errno ≠ .interrupted := fun same => final (congrArg _ same)
        simp [readingBy, other]
  rw [readings, Handle.attempts, List.reverse_cons, List.filterMap_append, retried]
  simp [last]

theorem readings_cons (call : Call) :
    readings label (call :: calls) = readings label calls ++ (readingBy label call).toList := by
  rw [readings, List.reverse_cons, List.filterMap_append, readings]
  cases same : readingBy label call with
  | none => rw [List.filterMap_cons_none same]; rfl
  | some result => rw [List.filterMap_cons_some same]; rfl

theorem pieces_data {bytes : Bytes} (someBytes : bytes ≠ []) (later : List (Except Errno Bytes)) :
    pieces (.ok bytes :: later) = bytes :: pieces later := by
  simp [pieces, readBytes, someBytes]

theorem flatten_pieces (readings : List (Except Errno Bytes)) :
    (pieces readings).flatten = readings.flatMap readBytes := by
  rw [pieces, List.flatMap_def]
  exact List.flatten_filter_ne_nil

theorem pieces_readings : (pieces (readings label calls)).flatten = got label calls := by
  have own (call : Call) : (readingBy label call).toList.flatMap readBytes = readBy label call := by
    cases call with
    | read descriptor size result =>
        cases descriptor with
        | tunnel | channel => rfl
        | client other =>
            cases result with
            | ok bytes =>
                by_cases same : other = label <;> simp [readingBy, readBy, same, readBytes]
            | error errno =>
                by_cases counts : other = label ∧ errno ≠ .interrupted <;>
                  simp [readingBy, readBy, counts, readBytes]
    | openTunnel | attach | unblock | resize | write | accept | poll | close | removeFile | bind
    | changeMode => rfl
  rw [flatten_pieces]
  induction calls with
  | nil => rfl
  | cons call rest ih => rw [readings_cons, List.flatMap_append, ih, own, got_cons]

theorem countP_readFrom : calls.countP (readFrom label) =
    (readings label calls).length + calls.countP (interruptedRead label) := by
  have own (call : Call) : (if readFrom label call then 1 else 0) =
      (readingBy label call).toList.length + if interruptedRead label call then 1 else 0 := by
    cases call with
    | read descriptor size result =>
        cases descriptor with
        | tunnel | channel => rfl
        | client other =>
            cases result with
            | ok bytes =>
                by_cases same : other = label <;> simp [readFrom, readingBy, interruptedRead, same]
            | error errno =>
                by_cases same : other = label <;> by_cases interrupted : errno = .interrupted <;>
                  simp [readFrom, readingBy, interruptedRead, same, interrupted]
    | openTunnel | attach | unblock | resize | write | accept | poll | close | removeFile | bind
    | changeMode => rfl
  induction calls with
  | nil => rfl
  | cons call rest ih =>
      rw [readings_cons, List.length_append, List.countP_cons, List.countP_cons, ih, own]
      omega

end History

open History (got readBytes readings pieces interruptedRead)

/-! ## What is taken from a stream -/

namespace Kernel

def Arrival.bytes : Arrival → Bytes
  | .data bytes => bytes
  | .failure _ | .ended => []

namespace Endpoint

def arriving (endpoint : Endpoint) : Bytes :=
  endpoint.inbound.flatMap Arrival.bytes

def interruptions (endpoint : Endpoint) : Nat :=
  endpoint.inbound.countP Arrival.isInterruption

theorem readStream_takes (label size : Nat) (endpoint : Endpoint) :
    readBytes (endpoint.readStream size).1 ++ (endpoint.readStream size).2.arriving =
        endpoint.arriving ∧
      (if interruptedRead label (.read (.client label) size (endpoint.readStream size).1) then 1
        else 0) + (endpoint.readStream size).2.interruptions = endpoint.interruptions := by
  by_cases sized : size = 0
  · simp [readStream, sized, readBytes, interruptedRead]
  obtain ⟨inbound, outbound, room, forced⟩ := endpoint
  cases inbound with
  | nil => simp [readStream, sized, readBytes, interruptedRead, Errno.again, Errno.interrupted]
  | cons arrival later =>
      cases arrival with
      | failure errno =>
          by_cases interrupted : errno = .interrupted
          · simp [readStream, sized, readBytes, interruptedRead, arriving, interruptions,
              Arrival.bytes, Arrival.isInterruption, interrupted, Nat.add_comm]
          · simp [readStream, sized, readBytes, interruptedRead, arriving, interruptions,
              Arrival.bytes, Arrival.isInterruption, interrupted]
      | ended =>
          simp [readStream, sized, readBytes, interruptedRead, arriving, interruptions]
      | data bytes =>
          cases left : bytes.drop size with
          | nil =>
              simp [readStream, sized, left, readBytes, interruptedRead, arriving, interruptions,
                Arrival.bytes, Arrival.isInterruption]
          | cons byte rest =>
              have whole := List.take_append_drop size bytes
              rw [left] at whole
              constructor
              · simp only [readStream, sized, left, readBytes, arriving, Arrival.bytes,
                  List.flatMap_cons, if_false]
                rw [← List.append_assoc, whole]
              · simp [readStream, sized, left, interruptedRead, interruptions,
                  Arrival.isInterruption]

end Endpoint

namespace Handle

/-- All that arrives at the stream of a client is got, in order, or still to come, and
with each interrupted read there is one interruption less to come. -/
structure Draws (label : Nat) (before after : Handle) : Prop where
  bytes : got label after.record.calls ++ after.endpoint.arriving =
    got label before.record.calls ++ before.endpoint.arriving
  interruptions : after.record.calls.countP (interruptedRead label) + after.endpoint.interruptions =
    before.record.calls.countP (interruptedRead label) + before.endpoint.interruptions

namespace Draws

variable {label : Nat} {before middle after : Handle}

theorem trans (first : Draws label before middle) (second : Draws label middle after) :
    Draws label before after :=
  ⟨second.bytes.trans first.bytes, second.interruptions.trans first.interruptions⟩

end Draws

theorem readStream_draws {label : Nat} (size : Nat) (handle : Handle)
    (own : handle.descriptor = .client label) : Draws label handle (handle.readStream size).2 := by
  -- One attempt draws, whatever comes of it, and a retry is one attempt more.
  have attempt (handle : Handle) (own : handle.descriptor = .client label) :
      Draws label handle (handle.after (handle.endpoint.readStream size).2
        (.read handle.descriptor size (handle.endpoint.readStream size).1)) := by
    obtain ⟨bytes, interruptions⟩ := handle.endpoint.readStream_takes label size
    constructor
    · rw [← bytes, own]
      simp only [after, Record.call, History.got_cons, List.append_assoc]
      cases (handle.endpoint.readStream size).1 <;> simp [History.readBy, readBytes]
    · rw [← interruptions, own]
      simp only [after, Record.call, List.countP_cons]
      omega
  induction handle using (readStream_retries size).along with
  | final handle final =>
      rw [(readStream_retries size).last final]
      exact attempt handle own
  | interrupted handle interrupted ih =>
      rw [(readStream_retries size).again interrupted]
      have once := attempt handle own
      rw [interrupted] at once
      exact once.trans (ih own)

end Handle
end Kernel

/-! ## How the readings decide -/

/-- How a serving with this budget ended, from what its reads came to and the
violation in the data among it. -/
structure Disposed (budget : Nat) (readings : List (Except Errno Bytes))
    (violation : Option Violation) (disposition : Disposition) : Prop where
  unfinished : disposition = .unfinished ↔
    (pieces readings).length = budget ∧ violation = none
  idle : disposition = .idle ↔
    .error .again ∈ readings ∧ (pieces readings).length < budget ∧ violation = none
  peerClosed : disposition = .closed .peerClosed ↔ .ok [] ∈ readings
  io : ∀ errno, disposition = .closed (.io errno) ↔ .error errno ∈ readings ∧ errno ≠ .again
  protocol : ∀ met, disposition = .closed (.protocol met) ↔ violation = some met
  hangUp : disposition ≠ .closed .hangUp

/-- What the reads of a serving came to, and what the serving itself: a serving reads on
as long as it has budget left, gets data and meets no violation. -/
inductive Course (size : Nat) :
    Nat → Decoder → List (Except Errno Bytes) → Except Errno Disposition → Prop
  | spent (decoder : Decoder) : Course size 0 decoder [] (.ok .unfinished)
  | blocked (budget : Nat) (decoder : Decoder) :
      Course size (budget + 1) decoder [.error .again] (.ok .idle)
  | ended (budget : Nat) (decoder : Decoder) :
      Course size (budget + 1) decoder [.ok []] (.ok (.closed .peerClosed))
  | failed {errno : Errno} (budget : Nat) (decoder : Decoder) (serious : errno ≠ .again) :
      Course size (budget + 1) decoder [.error errno] (.ok (.closed (.io errno)))
  | broke {bytes : Bytes} {violation : Violation} (budget : Nat) (decoder : Decoder)
      (someBytes : bytes ≠ []) (fits : bytes.length ≤ size)
      (met : (decoder.drain bytes).violation = some violation) :
      Course size (budget + 1) decoder [.ok bytes] (.ok (.closed (.protocol violation)))
  /-- The tunnel has failed. -/
  | stuck {bytes : Bytes} (errno : Errno) (budget : Nat) (decoder : Decoder)
      (someBytes : bytes ≠ []) (fits : bytes.length ≤ size) :
      Course size (budget + 1) decoder [.ok bytes] (.error errno)
  | on {bytes : Bytes} {budget : Nat} {decoder : Decoder} {readings : List (Except Errno Bytes)}
      {result : Except Errno Disposition} (someBytes : bytes ≠ []) (fits : bytes.length ≤ size)
      (clean : (decoder.drain bytes).violation = none)
      (later : Course size budget (decoder.drain bytes).decoder readings result) :
      Course size (budget + 1) decoder (.ok bytes :: readings) result

namespace Course

variable {size budget : Nat} {decoder : Decoder} {readings : List (Except Errno Bytes)}
  {result : Except Errno Disposition}

/-- Each read uses up budget, and none brings more than it asks for. -/
theorem bounded (course : Course size budget decoder readings result) :
    readings.length ≤ budget ∧ (pieces readings).flatten.length ≤ budget * size := by
  induction course with
  | spent | blocked | ended | failed => simp [pieces, readBytes]
  | broke budget decoder someBytes fits | stuck errno budget decoder someBytes fits =>
      rw [History.pieces_data someBytes]
      simp only [pieces, List.map_nil, List.filter_nil, List.flatten_cons, List.flatten_nil,
        List.append_nil, List.length_cons, List.length_nil, Nat.succ_mul]
      omega
  | on someBytes fits clean later ih =>
      rw [History.pieces_data someBytes]
      simp only [List.flatten_cons, List.length_append, List.length_cons, Nat.succ_mul]
      omega

/-- What decides is the last read, or the budget if all reads got data. -/
theorem disposed {disposition : Disposition}
    (course : Course size budget decoder readings (.ok disposition)) :
    Disposed budget readings (decoder.feed (pieces readings)).violation disposition := by
  generalize ends : Except.ok disposition = result at course
  induction course with
  | spent | blocked | ended =>
      cases ends
      constructor <;> simp [pieces, readBytes, Decoder.feed]
  | @failed errno budget decoder serious =>
      cases ends
      have told (other : Errno) : errno = other ↔ other = errno ∧ other ≠ .again := by
        constructor
        · rintro rfl
          exact ⟨rfl, serious⟩
        · exact fun both => both.1.symm
      constructor <;> simp [pieces, readBytes, Decoder.feed, Ne.symm serious, told]
  | broke budget decoder someBytes fits met =>
      cases ends
      rw [History.pieces_data someBytes]
      constructor <;> simp [pieces, readBytes, Decoder.feed, met, someBytes.symm]
  | stuck => cases ends
  | @on bytes budget decoder readings result someBytes fits clean later ih =>
      obtain ⟨unfinished, idle, peerClosed, io, protocol, hangUp⟩ := ih ends
      have more := congrArg List.length (History.pieces_data someBytes readings)
      rw [History.pieces_data someBytes, Decoder.feed, clean]
      refine ⟨?_, ?_, ?_, ?_, protocol, hangUp⟩
      · simpa [more] using unfinished
      · simpa [more] using idle
      · simpa [someBytes.symm] using peerClosed
      · simpa using io

end Course

/-! ## Serving -/

namespace Circuit

theorem forward_drains (name : String) (input : Bytes) (circuit : Circuit)
    {met : Option Violation} (passed : (circuit.forward name input).1 = .ok met) :
    met = (circuit.session.decoder.drain input).violation ∧
      (circuit.forward name input).2.session.decoder =
        (circuit.session.decoder.drain input).decoder := by
  fun_induction forward name input circuit with
  | case1 circuit =>
      cases passed
      rw [Decoder.drain_unfolds, if_pos rfl]
      exact ⟨rfl, rfl⟩
  | case2 input circuit someInput violation decoder rest decoded =>
      cases passed
      rw [Decoder.drain_unfolds, if_neg someInput, decoded]
      exact ⟨rfl, rfl⟩
  | case3 input circuit someInput decoder rest decoded ih =>
      rw [Decoder.drain_unfolds, if_neg someInput, decoded]
      exact ih passed
  | case4 => cases passed
  | case5 input circuit someInput packet decoder rest decoded after forwarded ih =>
      have kept := decoder_of_forwarded forwarded
      have later := ih passed
      rw [kept] at later
      rw [Decoder.drain_unfolds, if_neg someInput, decoded]
      exact later

theorem forward_writes (name : String) (input : Bytes) (circuit : Circuit) :
    ∃ new, (circuit.forward name input).2.calls = new ++ circuit.calls ∧
      ∀ call ∈ new, ∃ packet result, call = .write .tunnel packet result := by
  fun_induction forward name input circuit with
  | case1 circuit => exact ⟨[], rfl, by simp⟩
  | case2 => exact ⟨[], rfl, by simp⟩
  | case3 input circuit someInput decoder rest decoded ih => exact ih
  | case4 input circuit someInput packet decoder rest decoded errno after failed =>
      obtain ⟨result, interruptions, _, calls⟩ := forwardPacket_calls name packet
        (circuit.update fun session => { session with decoder })
      rw [failed] at calls
      exact ⟨_, calls, History.attempts_writes packet result interruptions⟩
  | case5 input circuit someInput packet decoder rest decoded after passed ih =>
      obtain ⟨result, interruptions, _, calls⟩ := forwardPacket_calls name packet
        (circuit.update fun session => { session with decoder })
      rw [passed] at calls
      obtain ⟨later, appended, writes⟩ := ih
      refine ⟨later ++ _, by rw [appended, calls, List.append_assoc]; rfl, ?_⟩
      intro call member
      rcases List.mem_append.mp member with inside | before
      · exact writes call inside
      · exact History.attempts_writes packet result interruptions call before

theorem overStream_readings (size : Nat) (circuit : Circuit) :
    ∃ new, (circuit.overStream (circuit.toLine.handle.readStream size).2).calls =
        new ++ circuit.calls ∧
      readings circuit.session.label new = [(circuit.toLine.handle.readStream size).1] := by
  obtain ⟨interruptions, made, _, final⟩ := readStream_calls size circuit.toLine
  exact ⟨_, made, History.readings_attempts size final interruptions⟩

theorem serve_course (name : String) (size budget : Nat) (circuit : Circuit) :
    ∃ new, (circuit.serve name size budget).2.calls = new ++ circuit.calls ∧
      Course size budget circuit.session.decoder (readings circuit.session.label new)
        (circuit.serve name size budget).1 := by
  induction budget generalizing circuit with
  | zero => exact ⟨[], rfl, .spent _⟩
  | succ budget ih =>
      obtain ⟨reads, readCalls, came⟩ := overStream_readings size circuit
      unfold serve
      split
      · next handle made =>
          rw [made] at readCalls came
          exact ⟨reads, readCalls, came ▸ .ended budget _⟩
      · next bytes handle someBytes made =>
          rw [made] at readCalls came
          have someBytes : bytes ≠ [] := someBytes
          have fits : bytes.length ≤ size := Handle.readStream_fits (congrArg Prod.fst made)
          -- Forwarding what was read makes no reading of its own.
          obtain ⟨writes, writeCalls, allWrites⟩ :=
            forward_writes name bytes (circuit.overStream handle)
          have both : (((circuit.overStream handle).forward name bytes).2).calls =
              (writes ++ reads) ++ circuit.calls := by
            rw [writeCalls, readCalls, List.append_assoc]
          have cameBoth : readings circuit.session.label (writes ++ reads) = [.ok bytes] := by
            rw [History.readings_append, came, History.readings_writes allWrites,
              List.append_nil]
          have drains := @forward_drains name bytes (circuit.overStream handle)
          have label := (forward_receives name bytes (circuit.overStream handle)).label
          split
          · next errno after failed =>
              rw [failed] at both
              exact ⟨_, both, cameBoth ▸ .stuck errno budget _ someBytes fits⟩
          · next violation after broken =>
              rw [broken] at both drains
              obtain ⟨met, _⟩ := drains rfl
              exact ⟨_, both, cameBoth ▸ .broke budget _ someBytes fits met.symm⟩
          · next after passed =>
              rw [passed] at both drains label
              obtain ⟨clean, decoder⟩ := drains rfl
              obtain ⟨later, laterCalls, course⟩ := ih after
              refine ⟨later ++ (writes ++ reads), ?_, ?_⟩
              · rw [laterCalls, List.append_assoc]
                exact congrArg (later ++ ·) both
              · rw [History.readings_append, cameBoth]
                rw [decoder, label] at course
                exact .on someBytes fits clean.symm course
      · next errno handle made =>
          rw [made] at readCalls came
          split
          · next again =>
              subst again
              exact ⟨reads, readCalls, came ▸ .blocked budget _⟩
          · next serious => exact ⟨reads, readCalls, came ▸ .failed budget _ serious⟩

/-! ### The stream -/

theorem forward_draws (name : String) (input : Bytes) (circuit : Circuit) :
    Handle.Draws circuit.session.label circuit.toLine.handle
      (circuit.forward name input).2.toLine.handle := by
  obtain ⟨new, appended, writes⟩ := forward_writes name input circuit
  have silent : new.countP (interruptedRead circuit.session.label) = 0 := by
    rw [List.countP_eq_zero]
    intro call member
    obtain ⟨packet, result, rfl⟩ := writes call member
    simp [interruptedRead]
  have stream := forward_stream name input circuit
  have calls : (circuit.forward name input).2.record.calls = new ++ circuit.record.calls := appended
  constructor
  · simp only [Line.handle, calls, stream, History.got_writes writes]
  · simp only [Line.handle, calls, stream, List.countP_append, silent, Nat.zero_add]

theorem overStream_draws (size : Nat) (circuit : Circuit) :
    Handle.Draws circuit.session.label circuit.toLine.handle
      (circuit.overStream (circuit.toLine.handle.readStream size).2).toLine.handle := by
  obtain ⟨bytes, interruptions⟩ := Handle.readStream_draws size circuit.toLine.handle rfl
  exact ⟨bytes, interruptions⟩

theorem serve_draws (name : String) (size budget : Nat) (circuit : Circuit) :
    Handle.Draws circuit.session.label circuit.toLine.handle
      (circuit.serve name size budget).2.toLine.handle := by
  induction budget generalizing circuit with
  | zero => exact ⟨rfl, rfl⟩
  | succ budget ih =>
      have read := overStream_draws size circuit
      unfold serve
      split
      · next handle made =>
          rw [made] at read
          exact read
      · next bytes handle someBytes made =>
          rw [made] at read
          have forwarded := forward_draws name bytes (circuit.overStream handle)
          -- Forwarding writes to the tunnel, which is another descriptor.
          have label := (forward_receives name bytes (circuit.overStream handle)).label
          split
          · next errno after failed =>
              rw [failed] at forwarded
              exact read.trans forwarded
          · next violation after broken =>
              rw [broken] at forwarded
              exact read.trans forwarded
          · next after passed =>
              rw [passed] at forwarded label
              have later := ih after
              rw [label] at later
              exact (read.trans forwarded).trans later
      · next errno handle made =>
          rw [made] at read
          split
          · exact read
          · exact read

/-! ## Sessions that are over -/

theorem read_over (name : String) (size budget : Nat) (circuit : Circuit)
    (ended : circuit.session.connected = false) :
    circuit.read name size budget = (.ok .idle, circuit) := by
  simp [read, ended]

/-- A serving ends the session exactly when it says so. -/
theorem read_ends (name : String) (size budget : Nat) (circuit : Circuit)
    (connected : circuit.session.connected = true) :
    (circuit.read name size budget).2.session.connected = false ↔
      ∃ parting, (circuit.read name size budget).1 = .ok (.closed parting) := by
  rw [read_connected, connected, Bool.true_and, Bool.not_eq_false']
  constructor
  · intro closed
    unfold Disposition.isClosed at closed
    split at closed
    · next parting result => exact ⟨parting, result⟩
    · cases closed
  · rintro ⟨parting, result⟩
    rw [result]
    rfl

end Circuit

namespace Account

theorem act_over (made : Act) (account : Account)
    (ended : account.circuit.session.connected = false) :
    (account.act made).circuit.session.connected = false := by
  cases made with
  | send frame =>
      simp only [act, offer, Line.send_disconnected frame account.circuit.toLine ended]
      exact ended
  | flush =>
      obtain ⟨_, connected⟩ := Line.flush_counts account.circuit.toLine
      simp only [act, connected]
      rw [ended, Bool.false_and]
  | read name size budget =>
      simp only [act, Circuit.read_over name size budget account.circuit ended]
      exact ended
  | rescript stream tunnel => exact ended

theorem after_over (acts : List Act) (account : Account)
    (ended : account.circuit.session.connected = false) :
    (account.after acts).circuit.session.connected = false := by
  induction acts generalizing account with
  | nil => exact ended
  | cons made rest ih => exact ih (account.act made) (act_over made account ended)

end Account

namespace Circuit

/-- `new` is what a serving did: it took no more than the budget and the size of a read
allow. Interrupted reads do not count, and each used up an interruption that was to come. -/
structure Takes (size budget : Nat) (before after : Circuit) (new : List Call) : Prop where
  calls : after.calls = new ++ before.calls
  readings : (readings before.session.label new).length ≤ budget
  bytes : (got before.session.label new).length ≤ budget * size
  arriving : before.stream.arriving = got before.session.label new ++ after.stream.arriving
  interruptions : before.stream.interruptions =
    new.countP (interruptedRead before.session.label) + after.stream.interruptions
  reads : new.countP (History.readFrom before.session.label) ≤
    budget + before.stream.interruptions

theorem serve_takes (name : String) (size budget : Nat) (circuit : Circuit) :
    ∃ new, Takes size budget circuit (circuit.serve name size budget).2 new ∧
      Course size budget circuit.session.decoder (History.readings circuit.session.label new)
        (circuit.serve name size budget).1 := by
  obtain ⟨new, appended, course⟩ := serve_course name size budget circuit
  obtain ⟨few, small⟩ := course.bounded
  rw [History.pieces_readings] at small
  obtain ⟨bytes, interruptions⟩ := serve_draws name size budget circuit
  generalize (circuit.serve name size budget).2 = after at appended bytes interruptions ⊢
  have bytes : got circuit.session.label after.calls ++ after.stream.arriving =
    got circuit.session.label circuit.calls ++ circuit.stream.arriving := bytes
  have interruptions : after.calls.countP (interruptedRead circuit.session.label) +
      after.stream.interruptions =
    circuit.calls.countP (interruptedRead circuit.session.label) +
      circuit.stream.interruptions := interruptions
  rw [appended, History.got_append, List.append_assoc] at bytes
  rw [appended, List.countP_append] at interruptions
  have used : circuit.stream.interruptions =
    new.countP (interruptedRead circuit.session.label) + after.stream.interruptions := by omega
  refine ⟨new, ⟨appended, few, small, (List.append_cancel_left bytes).symm, used, ?_⟩, course⟩
  rw [History.countP_readFrom]
  omega

/-- Whatever happens from here on, the session is over, nothing is read from its client
and nothing is sent to it. -/
def Over (circuit : Circuit) : Prop :=
  ∀ (account : Account) (acts : List Act), account.circuit = circuit →
    let later := (account.after acts).circuit
    later.session.connected = false ∧
      (∀ name size budget, later.read name size budget = (.ok .idle, later)) ∧
      ∀ frame, later.toLine.send frame = (.dropped, later.toLine)

theorem over_of_disconnected {circuit : Circuit} (ended : circuit.session.connected = false) :
    circuit.Over := by
  intro account acts same later
  have still : later.session.connected = false :=
    account.after_over acts (by rw [same]; exact ended)
  exact ⟨still, fun name size budget => read_over name size budget later still,
    fun frame => Line.send_disconnected frame later.toLine still⟩

/-- A serving takes no more than its budget and the size of a read allow. Unless the
tunnel fails, it is unfinished when the budget has gone on data alone, idle when a read
would have to wait before that, and otherwise ended by the peer, by an error or by the
first illegal header. A session that was ended stays so, and neither reads from its
client nor sends to it. -/
theorem read_disposes (name : String) (size budget : Nat) (circuit : Circuit)
    (connected : circuit.session.connected = true) :
    let after := (circuit.read name size budget).2
    (∃ new, Takes size budget circuit after new ∧
      ((∀ call ∈ new, call.failure? = none) →
        let readings := readings circuit.session.label new
        let violation := (circuit.session.decoder.feed (pieces readings)).violation
        (∃ disposition, (circuit.read name size budget).1 = .ok disposition ∧
          Disposed budget readings violation disposition) ∧
        ∀ held, Holding circuit.session.decoder held →
          violation = (parse (held ++ got circuit.session.label new)).violation)) ∧
    (after.session.connected = false ↔
      ∃ parting, (circuit.read name size budget).1 = .ok (.closed parting)) ∧
    (after.session.connected = false → after.Over) := by
  intro after
  refine ⟨?_, read_ends name size budget circuit connected, over_of_disconnected⟩
  have served : circuit.read name size budget = circuit.serve name size budget := by
    rw [read, if_pos connected]
  obtain ⟨new, takes, course⟩ := serve_takes name size budget circuit
  rw [← served] at takes course
  refine ⟨new, takes, ?_⟩
  intro harmless readings violation
  constructor
  · obtain ⟨told, toldAppended, _, tells⟩ := (read_tells name size budget circuit).new_calls
    -- Both lists are what the serving has added to one record.
    have same : told = new := List.append_cancel_right (toldAppended.symm.trans takes.calls)
    subst same
    cases result : (circuit.read name size budget).1 with
    | error errno =>
        rw [result] at tells
        obtain ⟨call, member, fatal⟩ := (tells (.tunnelIo errno)).mp rfl
        rw [harmless call member] at fatal
        cases fatal
    | ok disposition =>
        rw [result] at course
        exact ⟨disposition, rfl, course.disposed⟩
  · intro held holding
    have reading := circuit.session.decoder.feed_reading (pieces readings) holding.waiting
    rw [holding.held_eq, History.pieces_readings] at reading
    exact (congrArg Frame.Parsed.violation reading.parsed).symm

/-- An interruption between two pieces of a frame, and then a header that announces no
bytes, with some of the budget left. -/
theorem read_disposes_violation :
    let circuit : Circuit := ⟨⟨{ id := 1, label := 1 },
      { inbound := [.data [0, 0, 0, 1], .failure .interrupted, .data [7, 0, 0, 0, 0, 9], .ended] },
      {}⟩, {}⟩
    let after := (circuit.read "tun0" 5 4).2
    circuit.session.connected = true ∧ after.stream.inbound = [.data [9], .ended] ∧
      (∃ new, Takes 5 4 circuit after new) ∧
      (∃ parting, (circuit.read "tun0" 5 4).1 = .ok (.closed parting)) ∧ after.Over := by
  intro circuit after
  obtain ⟨⟨new, takes, _⟩, ends, overAfter⟩ := read_disposes "tun0" 5 4 circuit rfl
  have gone : after.session.connected = false := by decide +kernel
  exact ⟨rfl, by decide +kernel, ⟨new, takes⟩, ends.mp gone, overAfter gone⟩

end Circuit

end PacketRelay
