import PacketRelay.Frame.Decoder

/-!
Frames read off a whole byte string at once. Main statement: a decoder that is
fed the string in pieces finds the same packets, and the violation if there is one.
-/

namespace PacketRelay

theorem Bytes.ofWord_toNat (bytes : Bytes) (length : bytes.length = 4) :
    Bytes.ofWord (Bytes.toNat bytes) = bytes := by
  match bytes, length with
  | [a, b, c, d], _ =>
      have aSmall := a.toNat_lt
      have bSmall := b.toNat_lt
      have cSmall := c.toNat_lt
      have dSmall := d.toNat_lt
      simp only [toNat, ofWord, List.foldl_cons, List.foldl_nil, List.cons.injEq, and_true]
      refine ⟨?_, ?_, ?_, ?_⟩
      all_goals
        apply UInt8.toNat_inj.mp
        rw [UInt8.toNat_ofNat']
        omega

namespace Frame

def Legal (packet : Bytes) : Prop :=
  0 < packet.length ∧ packet.length ≤ maxLength

/-- What a byte string holds: the packets of the complete legal frames at its
front, and the violation of the header that ends them, if one does. -/
structure Parsed where
  packets : List Bytes := []
  violation : Option Violation := none
  deriving DecidableEq, Repr

def parse (bytes : Bytes) : Parsed :=
  if _ : bytes.length < headerLength then {}
  else
    let size := Bytes.toNat (bytes.take headerLength)
    let rest := bytes.drop headerLength
    match checkLength size with
    | .error violation => { violation := some violation }
    | .ok () =>
        if rest.length < size then {}
        else
          let later := parse (rest.drop size)
          { later with packets := rest.take size :: later.packets }
termination_by bytes.length
decreasing_by
  simp only [List.length_drop, headerLength] at *
  omega

theorem length_wrap (packet : Bytes) : (wrap packet).length = headerLength + packet.length := by
  simp only [wrap, List.length_append, Bytes.length_ofWord, headerLength]

theorem parse_wrap (packet rest : Bytes) (legal : Legal packet) :
    parse (wrap packet ++ rest) =
      { parse rest with packets := packet :: (parse rest).packets } := by
  have header : (wrap packet ++ rest).take headerLength = Bytes.ofWord packet.length := by
    simp [wrap, headerLength, Bytes.ofWord]
  have body : (wrap packet ++ rest).drop headerLength = packet ++ rest := by
    simp [wrap, headerLength, Bytes.ofWord]
  have small : packet.length < 4294967296 := by
    have bound := legal.2
    simp only [maxLength] at bound
    omega
  have long : ¬ (wrap packet ++ rest).length < headerLength := by
    rw [List.length_append, length_wrap]
    omega
  have checked := (checkLength_eq_ok_iff packet.length).mpr legal
  have whole : ¬ (packet ++ rest).length < packet.length := by
    rw [List.length_append]
    omega
  rw [parse, dif_neg long]
  simp only [header, body, Bytes.toNat_ofWord _ small, checked, if_neg whole, List.take_left,
    List.drop_left]

theorem parse_append (packets : List Bytes) (rest : Bytes)
    (legal : ∀ packet ∈ packets, Legal packet) :
    parse (packets.flatMap wrap ++ rest) =
      { parse rest with packets := packets ++ (parse rest).packets } := by
  induction packets with
  | nil => rfl
  | cons packet later ih =>
      rw [List.flatMap_cons, List.append_assoc,
        parse_wrap packet _ (legal packet List.mem_cons_self),
        ih fun other member => legal other (List.mem_cons_of_mem packet member)]
      rfl

/-- An illegal header ends the parse, whatever follows it. -/
theorem parse_violation (header rest : Bytes) (length : header.length = headerLength)
    {violation : Violation} (illegal : checkLength (Bytes.toNat header) = .error violation) :
    parse (header ++ rest) = { violation := some violation } := by
  have long : ¬ (header ++ rest).length < headerLength := by
    rw [List.length_append]
    omega
  rw [parse, dif_neg long]
  simp only [← length, List.take_left, illegal]

namespace Decoder

def held : Decoder → Bytes
  | .header seen => seen
  | .payload missing seen => Bytes.ofWord (missing + seen.length) ++ seen.reverse

/-- A decoder between calls, before any violation: the frame in progress is legal
so far and not complete. -/
def Waiting : Decoder → Prop
  | .header seen => seen.length < headerLength
  | .payload missing seen => 0 < missing ∧ missing + seen.length ≤ maxLength

theorem fresh_waiting : fresh.Waiting := Nat.succ_pos 3

/-- What is held while waiting holds neither a whole frame nor a violation. -/
theorem parse_held (decoder : Decoder) (waiting : decoder.Waiting) : parse decoder.held = {} := by
  cases decoder with
  | header seen =>
      have short : (Decoder.header seen).held.length < headerLength := waiting
      rw [parse, dif_pos short]
  | payload missing seen =>
      obtain ⟨someMissing, bound⟩ := waiting
      have size : missing + seen.length < 4294967296 := by
        simp only [maxLength] at bound
        omega
      have checked : checkLength (missing + seen.length) = .ok () :=
        (checkLength_eq_ok_iff _).mpr ⟨by omega, bound⟩
      have long : ¬ (held (.payload missing seen)).length < headerLength := by
        simp only [held, List.length_append, Bytes.length_ofWord, headerLength]
        omega
      have header : (held (.payload missing seen)).take headerLength =
          Bytes.ofWord (missing + seen.length) := by simp [held, headerLength, Bytes.ofWord]
      have body : (held (.payload missing seen)).drop headerLength = seen.reverse := by
        simp [held, headerLength, Bytes.ofWord]
      have short : seen.reverse.length < missing + seen.length := by
        rw [List.length_reverse]
        omega
      rw [parse, dif_neg long]
      simp only [header, body, Bytes.toNat_ofWord _ size, checked, if_pos short]

theorem fill_eq (missing : Nat) (seen input : Bytes) :
    fill missing seen input =
      if input.length < missing then
        ⟨.ok none, .payload (missing - input.length) (input.reverse ++ seen), []⟩
      else ⟨.ok (some (seen.reverse ++ input.take missing)), fresh, input.drop missing⟩ := by
  fun_induction fill missing seen input with
  | case1 => simp
  | case2 => simp
  | case3 missing seen byte rest ih =>
      rw [ih]
      by_cases short : rest.length < missing
      · rw [if_pos short, if_pos (by simpa using Nat.succ_lt_succ short)]
        simp
      · rw [if_neg short, if_neg (by simpa using short)]
        simp

inductive Outcome (decoder : Decoder) (input : Bytes) : Decoded → Prop
  | waiting {next : Decoder} (all : next.held = decoder.held ++ input) (waits : next.Waiting) :
      Outcome decoder input ⟨.ok none, next, []⟩
  | complete {packet rest : Bytes} (split : decoder.held ++ input = wrap packet ++ rest)
      (legal : Legal packet) : Outcome decoder input ⟨.ok (some packet), fresh, rest⟩
  | violation {header rest : Bytes} {violation : Violation} {next : Decoder}
      (split : decoder.held ++ input = header ++ rest) (length : header.length = headerLength)
      (illegal : checkLength (Bytes.toNat header) = .error violation) :
      Outcome decoder input ⟨.error violation, next, rest⟩

theorem fill_outcome (missing : Nat) (seen input : Bytes) (someMissing : 0 < missing)
    (bound : missing + seen.length ≤ maxLength) :
    Outcome (.payload missing seen) input (fill missing seen input) := by
  rw [fill_eq]
  split
  · next short =>
      apply Outcome.waiting
      · have same : missing - input.length + (input.reverse ++ seen).length =
            missing + seen.length := by
          simp only [List.length_append, List.length_reverse]
          omega
        simp only [held, same, List.reverse_append, List.reverse_reverse, List.append_assoc]
      · constructor
        · omega
        · simp only [List.length_append, List.length_reverse]
          omega
  · next long =>
      have length : (seen.reverse ++ input.take missing).length = missing + seen.length := by
        simp only [List.length_append, List.length_reverse, List.length_take]
        omega
      apply Outcome.complete
      · simp only [held, wrap, length, List.append_assoc, List.take_append_drop]
      · rw [Legal, length]
        omega

theorem decode_outcome (decoder : Decoder) (input : Bytes) (waits : decoder.Waiting) :
    Outcome decoder input (decoder.decode input) := by
  cases decoder with
  | payload missing seen => exact fill_outcome missing seen input waits.1 waits.2
  | header seen =>
      have waits : seen.length < headerLength := waits
      have split : seen ++ input = (seen ++ input.take (headerLength - seen.length)) ++
          input.drop (headerLength - seen.length) := by
        rw [List.append_assoc, List.take_append_drop]
      simp only [decode]
      split
      · next short =>
          -- The header is still not complete, so nothing of the input is left.
          have all : input.drop (headerLength - seen.length) = [] := by
            apply List.drop_eq_nil_of_le
            simp only [List.length_append, List.length_take] at short
            omega
          rw [all] at split ⊢
          rw [List.append_nil] at split
          exact .waiting split.symm short
      · next long =>
          have length : (seen ++ input.take (headerLength - seen.length)).length =
              headerLength := by
            simp only [List.length_append, List.length_take] at long ⊢
            omega
          generalize seen ++ input.take (headerLength - seen.length) = header at split length ⊢
          generalize input.drop (headerLength - seen.length) = rest at split ⊢
          split
          · next violation illegal => exact .violation split length illegal
          · next checked =>
              -- The header is complete and legal, so the call goes on with an empty payload.
              have legal := (checkLength_eq_ok_iff _).mp checked
              have filled := fill_outcome (Bytes.toNat header) [] rest legal.1
                (by simpa using legal.2)
              have same : (Decoder.payload (Bytes.toNat header) []).held = header := by
                simp [held, Bytes.ofWord_toNat header length]
              generalize fill (Bytes.toNat header) [] rest = decoded at filled ⊢
              have joined : (Decoder.header seen).held ++ input =
                  (Decoder.payload (Bytes.toNat header) []).held ++ rest := by
                rw [same]
                exact split
              cases filled with
              | waiting all waits => exact .waiting (all.trans joined.symm) waits
              | complete split legal => exact .complete (joined.trans split) legal
              | violation split length illegal =>
                  exact .violation (joined.trans split) length illegal

end Decoder
end Frame
end PacketRelay
