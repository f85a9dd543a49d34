import PacketRelay.Proofs.History
import PacketRelay.Proofs.Parsing
import PacketRelay.Proofs.Service

/-!
Serving one client, seen from the bytes it has sent. The packets offered to the
tunnel for it are those of the complete frames read so far, and the decoder
holds what is left over.
-/

namespace PacketRelay

open Kernel (Call Endpoint Handle)
open PacketRelay.Frame (Legal Violation parse)

namespace History

def readBy (label : Nat) : Call → Bytes
  | .read (.client other) _ (.ok bytes) => if other = label then bytes else []
  | _ => []

def got (label : Nat) (calls : List Call) : Bytes :=
  calls.reverse.flatMap (readBy label)

/-- The client that was read from last: what is written to the tunnel is its. -/
def server : List Call → Option Nat
  | [] => none
  | .read (.client label) _ _ :: _ => some label
  | _ :: earlier => server earlier

def interrupted : Except Errno Nat → Bool
  | .ok _ => false
  | .error errno => errno = .interrupted

theorem not_interrupted {result : Except Errno Nat} (final : result ≠ .error .interrupted) :
    interrupted result = false := by
  cases result with
  | ok count => rfl
  | error errno => exact decide_eq_false fun same => final (same ▸ rfl)

/-- The packets offered to the tunnel for a client, in order. A write that is
interrupted is made again, so it does not count. -/
def offered (label : Nat) : List Call → List Bytes
  | [] => []
  | .write .tunnel packet result :: earlier =>
      if server earlier = some label ∧ ¬ interrupted result then
        offered label earlier ++ [packet]
      else offered label earlier
  | _ :: earlier => offered label earlier

theorem got_append (label : Nat) (new calls : List Call) :
    got label (new ++ calls) = got label calls ++ got label new := by
  simp [got]

theorem got_cons (label : Nat) (call : Call) (calls : List Call) :
    got label (call :: calls) = got label calls ++ readBy label call := by
  simp [got]

/-- A call that neither reads from a client nor writes to the tunnel. -/
structure Plain (call : Call) : Prop where
  read : ∀ label, readBy label call = []
  offered : ∀ label calls, offered label (call :: calls) = History.offered label calls

variable {label other : Nat} {new calls : List Call}

theorem got_plain (plain : ∀ call ∈ new, Plain call) :
    got label (new ++ calls) = got label calls := by
  have noneRead : got label new = [] := by
    simp only [got, List.flatMap_eq_nil_iff, List.mem_reverse]
    exact fun call member => (plain call member).read label
  rw [got_append, noneRead, List.append_nil]

theorem offered_plain (plain : ∀ call ∈ new, Plain call) :
    offered label (new ++ calls) = offered label calls := by
  induction new with
  | nil => rfl
  | cons call rest ih =>
      rw [List.cons_append, (plain call List.mem_cons_self).offered, ih fun other member =>
        plain other (List.mem_cons_of_mem call member)]

/-! Nothing is got from, or offered for, a client that no call is about. -/

theorem got_eq_nil (untouched : ∀ call ∈ calls, call.client? ≠ some label) :
    got label calls = [] := by
  simp only [got, List.flatMap_eq_nil_iff, List.mem_reverse]
  intro call member
  unfold readBy
  split
  · next client size bytes =>
      have different : client ≠ label := fun same => untouched _ member (same ▸ rfl)
      rw [if_neg different]
  · rfl

theorem server_ne (untouched : ∀ call ∈ calls, call.client? ≠ some label) :
    server calls ≠ some label := by
  fun_induction server calls with
  | case1 => simp
  | case2 client size result earlier =>
      exact untouched _ List.mem_cons_self
  | case3 call earlier _ ih =>
      exact ih fun other member => untouched other (List.mem_cons_of_mem call member)

theorem offered_eq_nil (untouched : ∀ call ∈ calls, call.client? ≠ some label) :
    offered label calls = [] := by
  fun_induction offered label calls with
  | case1 => rfl
  | case2 packet result earlier serving ih =>
      exact absurd serving.1 (server_ne fun other member =>
        untouched other (List.mem_cons_of_mem _ member))
  | case3 packet result earlier _ ih =>
      exact ih fun other member => untouched other (List.mem_cons_of_mem _ member)
  | case4 call earlier _ ih =>
      exact ih fun other member => untouched other (List.mem_cons_of_mem call member)

/-! ## A packet that is written until the write is not interrupted -/

theorem server_writes
    (writes : ∀ call ∈ new, ∃ packet result, call = .write .tunnel packet result) :
    server (new ++ calls) = server calls := by
  induction new with
  | nil => rfl
  | cons call rest ih =>
      obtain ⟨packet, result, rfl⟩ := writes call List.mem_cons_self
      exact ih fun other member => writes other (List.mem_cons_of_mem _ member)

variable {packet : Bytes} {result : Except Errno Nat}

theorem attempts_writes (packet : Bytes) (result : Except Errno Nat) (interruptions : Nat) :
    ∀ call ∈ Handle.attempts (Call.write .tunnel packet) result interruptions,
      ∃ packet result, call = .write .tunnel packet result := by
  intro call member
  rcases List.mem_cons.mp member with rfl | retried
  · exact ⟨_, _, rfl⟩
  · exact ⟨_, _, List.eq_of_mem_replicate retried⟩

theorem offered_interrupted (interruptions : Nat) :
    offered label (List.replicate interruptions
      (Call.write .tunnel packet (.error .interrupted)) ++ calls) = offered label calls := by
  induction interruptions with
  | zero => rfl
  | succ count ih =>
      rw [List.replicate_succ, List.cons_append, offered, if_neg fun both => both.2 rfl]
      exact ih

/-- However often it is interrupted, a packet is offered once, and only for the client served. -/
theorem offered_attempts (final : result ≠ .error .interrupted) (interruptions : Nat) :
    offered label (Handle.attempts (.write .tunnel packet) result interruptions ++ calls) =
      offered label calls ++ if server calls = some label then [packet] else [] := by
  have still : server (List.replicate interruptions
      (Call.write .tunnel packet (.error .interrupted)) ++ calls) = server calls := by
    apply server_writes
    intro call member
    exact ⟨_, _, List.eq_of_mem_replicate member⟩
  rw [Handle.attempts, List.cons_append, offered, still, offered_interrupted]
  by_cases serving : server calls = some label
  · rw [if_pos ⟨serving, by simp [not_interrupted final]⟩, if_pos serving]
  · rw [if_neg fun both => serving both.1, if_neg serving, List.append_nil]

theorem got_writes (writes : ∀ call ∈ new, ∃ packet result, call = .write .tunnel packet result) :
    got label (new ++ calls) = got label calls := by
  have noneRead : got label new = [] := by
    simp only [got, List.flatMap_eq_nil_iff, List.mem_reverse]
    intro call member
    obtain ⟨packet, result, rfl⟩ := writes call member
    rfl
  rw [got_append, noneRead, List.append_nil]

/-! ## One read from a client -/

theorem server_read (client size : Nat) (result : Except Errno Bytes) (interruptions : Nat) :
    server (Handle.attempts (.read (.client client) size) result interruptions ++ calls) =
      some client := rfl

theorem offered_read (client size : Nat) (result : Except Errno Bytes) (interruptions : Nat) :
    offered label (Handle.attempts (.read (.client client) size) result interruptions ++ calls) =
      offered label calls := by
  change offered label (List.replicate interruptions _ ++ calls) = _
  induction interruptions with
  | zero => rfl
  | succ count ih =>
      rw [List.replicate_succ]
      exact ih

def readBytes : Except Errno Bytes → Bytes
  | .ok bytes => bytes
  | .error _ => []

theorem got_read (client size : Nat) (result : Except Errno Bytes) (interruptions : Nat) :
    got label (Handle.attempts (.read (.client client) size) result interruptions ++ calls) =
      got label calls ++ if client = label then readBytes result else [] := by
  have idle : got label (List.replicate interruptions
      (Call.read (.client client) size (.error .interrupted))) = [] := by
    simp only [got, List.flatMap_eq_nil_iff, List.mem_reverse]
    intro call member
    rw [List.eq_of_mem_replicate member]
    rfl
  rw [Handle.attempts, List.cons_append, got_cons, got_append, idle, List.append_nil]
  cases result <;> simp [readBy, readBytes]

end History

open History (got offered server)

namespace Circuit

def calls (circuit : Circuit) : List Call := circuit.record.calls

/-- Nothing has been read from, or offered for, anyone but the client of the circuit. -/
structure Serves (before after : Circuit) : Prop where
  label : after.session.label = before.session.label
  got : ∀ other ≠ before.session.label, got other after.calls = got other before.calls
  offered : ∀ other ≠ before.session.label,
    offered other after.calls = offered other before.calls

theorem Serves.refl (circuit : Circuit) : Serves circuit circuit :=
  ⟨rfl, fun _ _ => rfl, fun _ _ => rfl⟩

theorem Serves.trans {before middle after : Circuit} (first : Serves before middle)
    (second : Serves middle after) : Serves before after where
  label := second.label.trans first.label
  got other different :=
    (second.got other (first.label ▸ different)).trans (first.got other different)
  offered other different :=
    (second.offered other (first.label ▸ different)).trans (first.offered other different)

/-- The packets of the client's complete frames have been offered; `input` has
been read and is still to be decoded. -/
structure Keeping (circuit : Circuit) (packets : List Bytes) (input : Bytes) : Prop where
  got : got circuit.session.label circuit.calls =
    packets.flatMap Frame.wrap ++ (circuit.session.decoder.held ++ input)
  legal : ∀ packet ∈ packets, Legal packet
  waiting : circuit.session.decoder.Waiting
  offered : offered circuit.session.label circuit.calls = packets
  received : circuit.session.tally.received = packets.length

/-- The packets of the client's complete frames have been offered, and a violation has been met. -/
structure Broken (circuit : Circuit) (violation : Violation) : Prop where
  violation : (parse (History.got circuit.session.label circuit.calls)).violation = some violation
  offered : offered circuit.session.label circuit.calls =
    (parse (History.got circuit.session.label circuit.calls)).packets

theorem Keeping.parsed {circuit : Circuit} {packets : List Bytes}
    (keeping : Keeping circuit packets []) :
    parse (History.got circuit.session.label circuit.calls) = { packets } := by
  rw [keeping.got, List.append_nil, Frame.parse_append packets _ keeping.legal,
    circuit.session.decoder.parse_held keeping.waiting, List.append_nil]

/-! ## Who is served -/

theorem forwardPacket_calls (name : String) (packet : Bytes) (circuit : Circuit) :
    ∃ result interruptions, result ≠ .error .interrupted ∧
      (circuit.forwardPacket name packet).2.calls =
        Handle.attempts (.write .tunnel packet) result interruptions ++ circuit.calls := by
  obtain ⟨last, interruptions, final, _, _, _, calls, _⟩ :=
    forwardPacket_spec name packet circuit
  exact ⟨_, interruptions, final, calls⟩

theorem forwardPacket_serves (name : String) (packet : Bytes) (circuit : Circuit)
    (serving : server circuit.calls = some circuit.session.label) :
    Serves circuit (circuit.forwardPacket name packet).2 ∧
      server (circuit.forwardPacket name packet).2.calls =
        some (circuit.forwardPacket name packet).2.session.label := by
  obtain ⟨result, interruptions, final, calls⟩ := forwardPacket_calls name packet circuit
  have label := (forwardPacket_receives name packet circuit).label
  have writes := History.attempts_writes packet result interruptions
  constructor
  · constructor
    · exact label
    · intro other _
      rw [calls, History.got_writes writes]
    · intro other different
      have unserved : server circuit.calls ≠ some other := by
        rw [serving]
        rintro ⟨⟩
        exact different rfl
      rw [calls, History.offered_attempts final, if_neg unserved, List.append_nil]
  · rw [calls, History.server_writes writes, serving, label]

theorem forward_serves (name : String) (input : Bytes) (circuit : Circuit)
    (serving : server circuit.calls = some circuit.session.label) :
    Serves circuit (circuit.forward name input).2 := by
  fun_induction forward name input circuit with
  | case1 circuit => exact .refl circuit
  | case2 input circuit someInput violation decoder rest decoded =>
      exact ⟨rfl, fun _ _ => rfl, fun _ _ => rfl⟩
  | case3 input circuit someInput decoder rest decoded ih =>
      have later := ih serving
      exact ⟨later.label, later.got, later.offered⟩
  | case4 input circuit someInput packet decoder rest decoded errno after failed =>
      have forwarded := forwardPacket_serves name packet
        (circuit.update fun session => { session with decoder }) serving
      rw [failed] at forwarded
      obtain ⟨serves, _⟩ := forwarded
      exact ⟨serves.label, serves.got, serves.offered⟩
  | case5 input circuit someInput packet decoder rest decoded after passed ih =>
      have forwarded := forwardPacket_serves name packet
        (circuit.update fun session => { session with decoder }) serving
      rw [passed] at forwarded
      obtain ⟨serves, still⟩ := forwarded
      exact .trans ⟨serves.label, serves.got, serves.offered⟩ (ih still)

theorem overStream_serves (size : Nat) (circuit : Circuit) :
    Serves circuit (circuit.overStream (circuit.toLine.handle.readStream size).2) ∧
      server (circuit.overStream (circuit.toLine.handle.readStream size).2).calls =
        some circuit.session.label ∧
      History.offered circuit.session.label
          (circuit.overStream (circuit.toLine.handle.readStream size).2).calls =
        History.offered circuit.session.label circuit.calls ∧
      History.got circuit.session.label
          (circuit.overStream (circuit.toLine.handle.readStream size).2).calls =
        History.got circuit.session.label circuit.calls ++
          History.readBytes (circuit.toLine.handle.readStream size).1 := by
  obtain ⟨interruptions, made, _, _⟩ := readStream_calls size circuit.toLine
  have calls : (circuit.overStream (circuit.toLine.handle.readStream size).2).calls = _ ++
    circuit.calls := made
  refine ⟨⟨rfl, ?_, ?_⟩, ?_, ?_, ?_⟩
  · intro other different
    rw [calls, History.got_read, if_neg different.symm, List.append_nil]
  · intro other _
    rw [calls, History.offered_read]
  · rw [calls, History.server_read]
  · rw [calls, History.offered_read]
  · rw [calls, History.got_read, if_pos rfl]

theorem part_serves (parting : Parting) (circuit : Circuit) :
    Serves circuit (circuit.part parting).2 := ⟨rfl, fun _ _ => rfl, fun _ _ => rfl⟩

theorem serve_serves (name : String) (size budget : Nat) (circuit : Circuit) :
    Serves circuit (circuit.serve name size budget).2 := by
  induction budget generalizing circuit with
  | zero => exact ⟨rfl, fun _ _ => rfl, fun _ _ => rfl⟩
  | succ budget ih =>
      obtain ⟨read, serving, _⟩ := overStream_serves size circuit
      unfold serve
      split
      · next handle made =>
          rw [made] at read
          exact read.trans (part_serves _ _)
      · next bytes handle someBytes made =>
          rw [made] at read serving
          have forwarded := forward_serves name bytes (circuit.overStream handle) serving
          split
          · next errno after failed =>
              rw [failed] at forwarded
              exact read.trans forwarded
          · next violation after broken =>
              rw [broken] at forwarded
              exact (read.trans forwarded).trans (part_serves _ _)
          · next after passed =>
              rw [passed] at forwarded
              exact (read.trans forwarded).trans (ih after)
      · next errno handle made =>
          rw [made] at read
          split
          · exact read
          · exact read.trans (part_serves _ _)

theorem read_serves (name : String) (size budget : Nat) (circuit : Circuit) :
    Serves circuit (circuit.read name size budget).2 := by
  unfold read
  split
  · exact serve_serves name size budget circuit
  · exact .refl circuit

/-! ## What is offered -/

variable {packets : List Bytes} {input : Bytes} {circuit after : Circuit}

theorem forwardPacket_keeping {packet rest : Bytes} (name : String)
    (serving : server circuit.calls = some circuit.session.label)
    (keeping : Keeping circuit packets (Frame.wrap packet ++ rest))
    (clear : circuit.session.decoder.held = []) (legal : Legal packet) :
    Keeping (circuit.forwardPacket name packet).2 (packets ++ [packet]) rest := by
  obtain ⟨result, interruptions, final, calls⟩ := forwardPacket_calls name packet circuit
  obtain ⟨last, _, _, _, session, _⟩ := forwardPacket_spec name packet circuit
  have writes := History.attempts_writes packet result interruptions
  have label : (circuit.forwardPacket name packet).2.session.label = circuit.session.label :=
    (forwardPacket_receives name packet circuit).label
  have decoder := forwardPacket_decoder name packet circuit
  have received : (circuit.forwardPacket name packet).2.session.tally.received =
      circuit.session.tally.received + 1 := by
    rw [session]
    split <;> rfl
  constructor
  case got =>
    rw [label, calls, History.got_writes writes, keeping.got, decoder, clear]
    simp
  case legal =>
    intro other member
    rcases List.mem_append.mp member with old | new
    · exact keeping.legal other old
    · rw [List.mem_singleton.mp new]
      exact legal
  case waiting =>
    rw [decoder]
    exact keeping.waiting
  case offered => rw [label, calls, History.offered_attempts final, if_pos serving, keeping.offered]
  case received =>
    rw [received, keeping.received, List.length_append]
    rfl

theorem forward_keeping (name : String) (input : Bytes) (circuit : Circuit)
    (serving : server circuit.calls = some circuit.session.label)
    (keeping : Keeping circuit packets input) :
    ((circuit.forward name input).1 = .ok none →
      ∃ later, Keeping (circuit.forward name input).2 later []) ∧
    ∀ violation, (circuit.forward name input).1 = .ok (some violation) →
      Broken (circuit.forward name input).2 violation := by
  fun_induction forward name input circuit generalizing packets with
  | case1 circuit =>
      refine ⟨fun _ => ⟨packets, keeping⟩, ?_⟩
      rintro violation ⟨⟩
  | case2 input circuit someInput violation decoder rest decoded =>
      constructor
      · rintro ⟨⟩
      · rintro _ ⟨⟩
        have outcome := circuit.session.decoder.decode_outcome input keeping.waiting
        rw [decoded] at outcome
        cases outcome with
        | violation split length illegal =>
            have parsed : parse (History.got circuit.session.label circuit.calls) =
                { packets, violation := some violation } := by
              rw [keeping.got, Frame.parse_append packets _ keeping.legal, split,
                Frame.parse_violation _ _ length illegal, List.append_nil]
            constructor
            · change (parse (History.got circuit.session.label circuit.calls)).violation = _
              rw [parsed]
            · change History.offered circuit.session.label circuit.calls =
                (parse (History.got circuit.session.label circuit.calls)).packets
              rw [parsed]
              exact keeping.offered
  | case3 input circuit someInput decoder rest decoded ih =>
      have outcome := circuit.session.decoder.decode_outcome input keeping.waiting
      rw [decoded] at outcome
      cases outcome with
      | waiting all waits =>
          refine ih serving ⟨?_, keeping.legal, waits, keeping.offered, keeping.received⟩
          refine keeping.got.trans ?_
          rw [← all]
          exact congrArg _ (List.append_nil _).symm
  | case4 input circuit someInput packet decoder rest decoded errno after failed =>
      -- The tunnel has failed, so the result is neither of the two.
      exact ⟨by rintro ⟨⟩, by rintro violation ⟨⟩⟩
  | case5 input circuit someInput packet decoder rest decoded after passed ih =>
      have outcome := circuit.session.decoder.decode_outcome input keeping.waiting
      rw [decoded] at outcome
      cases outcome with
      | complete split legal =>
          -- The decoder holds nothing again, and the whole frame is in front of the rest.
          let cleared := circuit.update fun session => { session with decoder := .fresh }
          have kept : Keeping cleared packets (Frame.wrap packet ++ rest) := by
            refine ⟨?_, keeping.legal, Frame.Decoder.fresh_waiting, keeping.offered,
              keeping.received⟩
            refine keeping.got.trans ?_
            rw [split]
            rfl
          have servingCleared : server cleared.calls = some cleared.session.label := serving
          have forwarded := forwardPacket_keeping name servingCleared kept rfl legal
          obtain ⟨_, still⟩ := forwardPacket_serves name packet cleared serving
          rw [passed] at forwarded still
          exact ih still forwarded

theorem overStream_keeping (size : Nat) (circuit : Circuit) (keeping : Keeping circuit packets []) :
    Keeping (circuit.overStream (circuit.toLine.handle.readStream size).2) packets
      (History.readBytes (circuit.toLine.handle.readStream size).1) := by
  obtain ⟨_, _, offered, got⟩ := overStream_serves size circuit
  refine ⟨?_, keeping.legal, keeping.waiting, offered.trans keeping.offered, keeping.received⟩
  refine got.trans ?_
  rw [keeping.got, List.append_nil, List.append_assoc]
  rfl

theorem part_keeping (parting : Parting) (keeping : Keeping circuit packets input) :
    Keeping (circuit.part parting).2 packets input :=
  ⟨keeping.got, keeping.legal, keeping.waiting, keeping.offered, keeping.received⟩

/-- Whatever ends a serving, all that has been got is accounted for: it holds a
violation if that is what ended the session, and none otherwise. -/
theorem serve_keeping (name : String) (size budget : Nat) (circuit : Circuit)
    (keeping : Keeping circuit packets []) {disposition : Disposition}
    (served : circuit.serve name size budget = (.ok disposition, after)) :
    (∃ later, Keeping after later [] ∧
        ∀ violation, disposition ≠ .closed (.protocol violation)) ∨
      ∃ violation, disposition = .closed (.protocol violation) ∧ Broken after violation := by
  induction budget generalizing circuit packets with
  | zero =>
      cases served
      exact .inl ⟨packets, ⟨keeping.got, keeping.legal, keeping.waiting, keeping.offered,
        keeping.received⟩, by rintro violation ⟨⟩⟩
  | succ budget ih =>
      obtain ⟨_, serving, _⟩ := overStream_serves size circuit
      have read := overStream_keeping size circuit keeping
      unfold serve at served
      split at served
      · next handle made =>
          rw [made] at read
          cases served
          exact .inl ⟨packets, part_keeping .peerClosed read, by rintro violation ⟨⟩⟩
      · next bytes handle someBytes made =>
          rw [made] at read serving
          -- A violation in what was read ends the serving; otherwise nothing is left to decode.
          obtain ⟨whole, broken⟩ := forward_keeping name bytes (circuit.overStream handle)
            serving read
          split at served
          · cases served
          · next violation ended hangsUp =>
              rw [hangsUp] at broken
              cases served
              have met := broken violation rfl
              exact .inr ⟨violation, rfl, met.violation, met.offered⟩
          · next ended passed =>
              rw [passed] at whole
              obtain ⟨later, kept⟩ := whole rfl
              exact ih ended kept served
      · next errno handle made =>
          rw [made] at read
          split at served
          · cases served
            exact .inl ⟨packets, read, by rintro violation ⟨⟩⟩
          · cases served
            exact .inl ⟨packets, part_keeping (.io errno) read, by rintro violation ⟨⟩⟩

theorem read_keeping (name : String) (size budget : Nat) (circuit : Circuit)
    (keeping : Keeping circuit packets []) {disposition : Disposition}
    (read : circuit.read name size budget = (.ok disposition, after)) :
    (∃ later, Keeping after later [] ∧
        ∀ violation, disposition ≠ .closed (.protocol violation)) ∨
      ∃ violation, disposition = .closed (.protocol violation) ∧ Broken after violation := by
  unfold Circuit.read at read
  split at read
  · exact serve_keeping name size budget circuit keeping read
  · cases read
    exact .inl ⟨packets, keeping, by rintro violation ⟨⟩⟩

end Circuit
end PacketRelay
