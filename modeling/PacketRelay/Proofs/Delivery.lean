import PacketRelay.Proofs.Sound

/-!
What the stream of a client carries. Main statement: at every moment of every
run it has taken whole frames and at most the beginning of one more, and these
are the frames of packets the tunnel gave since the client was accepted, in that
order and none of them twice.
-/

namespace PacketRelay

open Kernel (Call Descriptor Deed)
open History (taken takenBy Throughout)
open Site (Numbered)

namespace History

/-- The packets of a legal length that the tunnel has given since the client was accepted. -/
def packetsSince (label : Nat) : List Call → List Bytes
  | [] => []
  | .accept (.ok other) :: earlier => if other = label then [] else packetsSince label earlier
  | .read .tunnel _ (.ok packet) :: earlier =>
      if 0 < packet.length ∧ packet.length ≤ Frame.maxLength then
        packetsSince label earlier ++ [packet]
      else packetsSince label earlier
  | _ :: earlier => packetsSince label earlier

/-- A call that neither puts bytes on the stream of a client nor changes which
packets it is to be given. -/
structure Quiet (label : Nat) (call : Call) : Prop where
  bytes : takenBy label call = []
  packets : ∀ calls, packetsSince label (call :: calls) = packetsSince label calls

variable {label : Nat} {new calls : List Call}

theorem taken_quiet (quiet : ∀ call ∈ new, Quiet label call) :
    taken label (new ++ calls) = taken label calls := by
  rw [taken_append, taken_eq_nil label new fun call member => (quiet call member).bytes,
    List.append_nil]

theorem fits_of_packetsSince {packet : Bytes} (given : packet ∈ packetsSince label calls) :
    0 < packet.length ∧ packet.length ≤ Frame.maxLength := by
  fun_induction packetsSince label calls with
  | case1 => cases given
  | case2 => cases given
  | case3 earlier other different ih => exact ih given
  | case4 size other earlier legal ih =>
      rcases List.mem_append.mp given with old | new
      · exact ih old
      · rw [List.mem_singleton.mp new]
        exact legal
  | case5 size other earlier illegal ih => exact ih given
  | case6 call earlier noClient noPacket ih => exact ih given

theorem packetsSince_append (plain : ∀ call ∈ new, ∀ calls,
    packetsSince label (call :: calls) = packetsSince label calls) :
    packetsSince label (new ++ calls) = packetsSince label calls := by
  induction new with
  | nil => rfl
  | cons call rest ih =>
      rw [List.cons_append, plain call List.mem_cons_self, ih fun other member =>
        plain other (List.mem_cons_of_mem call member)]

theorem packetsSince_quiet (quiet : ∀ call ∈ new, Quiet label call) :
    packetsSince label (new ++ calls) = packetsSince label calls :=
  packetsSince_append fun call member => (quiet call member).packets

theorem packetsSince_writes {client : Nat}
    (writes : ∀ call ∈ new, ∃ bytes result, call = .write (.client client) bytes result) :
    packetsSince label (new ++ calls) = packetsSince label calls := by
  apply packetsSince_append
  intro call member earlier
  obtain ⟨bytes, result, rfl⟩ := writes call member
  rfl

/-! Most calls are quiet. -/

theorem Quiet.read {client size : Nat} {result : Except Errno Bytes} :
    Quiet label (.read (.client client) size result) := ⟨rfl, fun _ => rfl⟩

theorem Quiet.transmit {packet : Bytes} {result : Except Errno Nat} :
    Quiet label (.write .tunnel packet result) := ⟨rfl, fun _ => rfl⟩

theorem Quiet.write {client : Nat} {bytes : Bytes} {result : Except Errno Nat}
    (different : client ≠ label) : Quiet label (.write (.client client) bytes result) where
  bytes := by cases result <;> simp [takenBy, different]
  packets _ := rfl

theorem Quiet.lacking {size : Nat} {result : Except Errno Bytes}
    (lacking : result = .ok [] ∨ ∃ errno, result = .error errno) :
    Quiet label (.read .tunnel size result) where
  bytes := rfl
  packets calls := by
    rcases lacking with rfl | ⟨errno, rfl⟩
    · simp [packetsSince]
    · rfl

theorem Quiet.failed {call : Call} (failed : ∃ errno, call = .accept (.error errno)) :
    Quiet label call := by
  obtain ⟨errno, rfl⟩ := failed
  exact ⟨rfl, fun _ => rfl⟩

theorem Quiet.close {descriptor : Descriptor} : Quiet label (.close descriptor) :=
  ⟨rfl, fun _ => rfl⟩

end History

open History (packetsSince Quiet)

/-- The bytes are whole frames of some of the packets, in order, and perhaps the
beginning of one more. -/
def Delivered (packets : List Bytes) (bytes : Bytes) : Prop :=
  ∃ whole part, bytes = whole.flatMap Frame.wrap ++ part ∧
    ((part = [] ∧ whole.Sublist packets) ∨
      ∃ next, part <+: Frame.wrap next ∧ part ≠ Frame.wrap next ∧
        (whole ++ [next]).Sublist packets)

theorem delivered_of_aligned {packets given : List Bytes} {bytes : Bytes}
    (aligned : Line.Aligned (packets.map Frame.wrap) bytes) (sublist : packets.Sublist given) :
    Delivered given bytes := by
  obtain ⟨tail, total, proper⟩ := aligned
  by_cases clear : tail = []
  · refine ⟨packets, [], ?_, .inl ⟨rfl, sublist⟩⟩
    rw [clear, List.append_nil] at total
    rw [total, List.append_nil, List.flatMap_def]
  · obtain ⟨last, isLast, ⟨part, split⟩, different⟩ := proper clear
    rw [List.getLast?_map, Option.map_eq_some_iff] at isLast
    obtain ⟨next, isNext, rfl⟩ := isLast
    obtain ⟨whole, rfl⟩ := List.getLast?_eq_some_iff.mp isNext
    refine ⟨whole, part, ?_, .inr ⟨next, ⟨tail, split⟩, ?_, sublist⟩⟩
    · rw [List.map_append, List.flatten_append, List.map_singleton, List.flatten_singleton,
        ← split, ← List.append_assoc] at total
      rw [List.append_cancel_right total, List.flatMap_def]
    · rintro rfl
      exact clear (List.append_right_eq_self.mp split)

theorem Delivered.mono {packets more : List Bytes} {bytes : Bytes}
    (delivered : Delivered packets bytes) (sublist : packets.Sublist more) :
    Delivered more bytes := by
  obtain ⟨whole, part, split, ended | ⟨next, begun, cut, inside⟩⟩ := delivered
  · exact ⟨whole, part, split, .inl ⟨ended.1, ended.2.trans sublist⟩⟩
  · exact ⟨whole, part, split, .inr ⟨next, begun, cut, inside.trans sublist⟩⟩

def InOrder (label : Nat) (calls : List Call) : Prop :=
  Delivered (packetsSince label calls) (taken label calls)

theorem InOrder.of_nothing {label : Nat} {calls : List Call} (nothing : taken label calls = []) :
    InOrder label calls :=
  ⟨[], [], nothing, .inl ⟨rfl, List.nil_sublist _⟩⟩

theorem InOrder.cons {label : Nat} {call : Call} {calls : List Call} (good : InOrder label calls)
    (quiet : Quiet label call) : InOrder label (call :: calls) := by
  unfold InOrder
  rw [quiet.packets, History.taken_cons, quiet.bytes, List.append_nil]
  exact good

namespace Stage

def owed (stage : Stage) (id : Nat) : List Bytes :=
  (stage.offers.filter (·.1 = id)).map (·.2)

theorem rest_owed (site : Site) (id : Nat) : (rest site).owed id = [] := rfl

structure Streaming (calls : List Call) (owed : List Bytes) (session : Session) : Prop where
  frames : ∃ packets, Owes (taken session.label calls) (packets.map Frame.wrap) session.pending ∧
    (packets ++ owed).Sublist (packetsSince session.label calls)

structure Streams (stage : Stage) : Prop where
  moments : ∀ label, Throughout (InOrder label) [] stage.site.calls
  streaming : ∀ session ∈ stage.site.relay.roster.sessions,
    Streaming stage.site.calls (stage.owed session.id) session
  counted : ∀ session ∈ stage.site.relay.roster.sessions,
    session.id ∉ stage.leaving.map (·.1) →
      session.tally.sent + session.tally.dropped + (stage.owed session.id).length =
        (packetsSince session.label stage.site.calls).length

namespace Streams

variable {stage next : Stage}

/-- Calls that write to no client change nothing for those they are quiet for,
and nothing at all for a client whose stream has taken nothing. -/
theorem quiet (streams : stage.Streams) (new : List Call)
    (calls : next.site.calls = new ++ stage.site.calls)
    (silent : ∀ label, (∀ call ∈ new, Quiet label call) ∨
      taken label stage.site.calls = [] ∧ ∀ call ∈ new, takenBy label call = [])
    (offers : next.offers = stage.offers)
    (sessions : ∀ session ∈ next.site.relay.roster.sessions,
      ∃ old ∈ stage.site.relay.roster.sessions,
        (session.id = old.id ∧ session.label = old.label ∧ session.pending = old.pending ∧
          session.tally.sent = old.tally.sent ∧ session.tally.dropped = old.tally.dropped) ∧
        (old.id ∈ stage.leaving.map (·.1) → session.id ∈ next.leaving.map (·.1)) ∧
        ∀ call ∈ new, Quiet old.label call) :
    next.Streams := by
  have sameOwed (id : Nat) : next.owed id = stage.owed id := by
    simp only [owed, offers]
  constructor
  case moments =>
    intro label
    rw [calls]
    refine (streams.moments label).trans ?_
    rcases silent label with quiet | ⟨nothing, noneWritten⟩
    · exact .append new (streams.moments label).last fun call member calls good =>
        good.cons (quiet call member)
    · have still : Throughout (fun calls => taken label calls = []) stage.site.calls
          (new ++ stage.site.calls) :=
        .append new nothing fun call member calls empty => by
          rw [History.taken_cons, empty, noneWritten call member, List.append_nil]
      exact still.imp fun calls empty => InOrder.of_nothing empty
  case streaming =>
    intro session member
    obtain ⟨old, inside, ⟨id, label, pending, _, _⟩, _, quiet⟩ := sessions session member
    obtain ⟨packets, owes, sublist⟩ := (streams.streaming old inside).frames
    refine ⟨packets, ?_, ?_⟩
    · rw [calls, label, pending, History.taken_quiet quiet]
      exact owes
    · rw [calls, sameOwed, id, label, History.packetsSince_quiet quiet]
      exact sublist
  case counted =>
    intro session member staying
    obtain ⟨old, inside, ⟨id, label, _, sent, dropped⟩, leaving, quiet⟩ := sessions session member
    rw [calls, sameOwed, id, label, sent, dropped, History.packetsSince_quiet quiet]
    exact streams.counted old inside fun leaves => staying (leaving leaves)

theorem aside (streams : stage.Streams) (new : List Call)
    (calls : next.site.calls = new ++ stage.site.calls)
    (quiet : ∀ label, ∀ call ∈ new, Quiet label call) (offers : next.offers = stage.offers)
    (sessions : ∀ session ∈ next.site.relay.roster.sessions,
      session ∈ stage.site.relay.roster.sessions ∧
        (session.id ∈ stage.leaving.map (·.1) → session.id ∈ next.leaving.map (·.1))) :
    next.Streams := by
  refine streams.quiet new calls (fun label => .inl (quiet label)) offers ?_
  intro session member
  obtain ⟨old, leaving⟩ := sessions session member
  exact ⟨session, old, ⟨rfl, rfl, rfl, rfl, rfl⟩, leaving, quiet _⟩

variable {site : Site} {session : Session}

theorem idle (streams : Streams (.rest site)) {handle : Kernel.Handle}
    {received : Except Errno (Option Bytes)}
    (made : Tunnel.receive Tunnel.maxPacketSize site.kernel.tunnelHandle = (received, handle))
    (nothing : ∀ packet, received = .ok (some packet) →
      ¬ (0 < packet.length ∧ packet.length ≤ Frame.maxLength)) :
    Streams (.rest (site.overTunnel handle)) := by
  obtain ⟨result, interruptions, _, gained, record⟩ := Tunnel.receive_record made
  refine streams.aside _ (congrArg Record.calls record) ?_ rfl
    fun session member => ⟨member, fun leaves => by cases leaves⟩
  intro label call member
  rcases List.mem_cons.mp member with rfl | retried
  · by_cases got : ∃ packet, received = .ok (some packet)
    · obtain ⟨packet, isPacket⟩ := got
      rw [isPacket] at gained
      obtain ⟨rfl, _⟩ := Tunnel.gain_eq_some gained.symm
      exact ⟨rfl, fun calls => by simp only [packetsSince, if_neg (nothing packet isPacket)]⟩
    · apply Quiet.lacking
      apply Tunnel.gain_ne_some
      intro packet isPacket
      exact got ⟨packet, gained.trans isPacket⟩
  · rw [List.eq_of_mem_replicate retried]
    exact .lacking (.inr ⟨_, rfl⟩)

theorem owed_everyone {sessions : List Session} {packet : Bytes}
    (ids : sessions.Pairwise (·.id < ·.id)) (member : session ∈ sessions) :
    (Stage.mk site (sessions.map fun other => (other.id, packet)) []).owed session.id =
      [packet] := by
  unfold owed
  dsimp only
  induction ids with
  | nil => cases member
  | @cons first rest above _ ih =>
      rcases List.mem_cons.mp member with rfl | inside
      · have others : (rest.map fun other => (other.id, packet)).filter (·.1 = session.id) =
            [] := by
          apply List.filter_eq_nil_iff.mpr
          intro offer isOffer
          obtain ⟨other, isOther, rfl⟩ := List.mem_map.mp isOffer
          simpa using Nat.ne_of_gt (above other isOther)
        rw [List.map_cons, List.filter_cons_of_pos (by simp), others]
        rfl
      · have different : first.id ≠ session.id := Nat.ne_of_lt (above session inside)
        rw [List.map_cons, List.filter_cons_of_neg (by simpa using different)]
        exact ih inside

/-- A packet for the clients is owed to everyone. -/
theorem took (sound : Sound (.rest site)) (streams : Streams (.rest site))
    {handle : Kernel.Handle} {packet : Bytes}
    (made : Tunnel.receive Tunnel.maxPacketSize site.kernel.tunnelHandle =
      (.ok (some packet), handle))
    (legal : 0 < packet.length ∧ packet.length ≤ Frame.maxLength) :
    Streams ⟨site.give handle, site.relay.roster.sessions.map fun session =>
      (session.id, packet), []⟩ := by
  obtain ⟨result, interruptions, _, gained, record⟩ := Tunnel.receive_record made
  obtain ⟨rfl, _⟩ := Tunnel.gain_eq_some gained.symm
  -- The record with the interrupted attempts, up to the read that brought the packet.
  let before := List.replicate interruptions
    (Call.read .tunnel Tunnel.maxPacketSize (.error .interrupted)) ++ site.calls
  have calls : (site.give handle).calls =
      .read .tunnel Tunnel.maxPacketSize (.ok packet) :: before := congrArg Record.calls record
  have idle (label : Nat) : ∀ call ∈ List.replicate interruptions
      (Call.read .tunnel Tunnel.maxPacketSize (.error .interrupted)), Quiet label call := by
    intro call member
    rw [List.eq_of_mem_replicate member]
    exact .lacking (.inr ⟨_, rfl⟩)
  have everyone (session : Session) (member : session ∈ site.relay.roster.sessions) :
      owed ⟨site.give handle, site.relay.roster.sessions.map fun session =>
        (session.id, packet), []⟩ session.id = [packet] :=
    owed_everyone sound.ordered.ids member
  have sameTaken (label : Nat) : taken label (site.give handle).calls = taken label site.calls := by
    rw [calls, History.taken_cons, History.taken_quiet (idle label)]
    exact List.append_nil _
  have oneMore (label : Nat) : packetsSince label (site.give handle).calls =
      packetsSince label site.calls ++ [packet] := by
    rw [calls]
    simp only [packetsSince, if_pos legal]
    rw [History.packetsSince_quiet (idle label)]
  constructor
  case moments =>
    intro label
    have soFar : Throughout (InOrder label) [] before :=
      (streams.moments label).trans (.append _ (streams.moments label).last
        fun call member calls good => good.cons (idle label call member))
    change Throughout (InOrder label) [] (site.give handle).calls
    rw [calls]
    refine soFar.cons _ ?_
    rw [← calls]
    unfold InOrder
    rw [sameTaken, oneMore]
    exact (streams.moments label).last.mono (List.sublist_append_left _ _)
  case streaming =>
    intro session member
    obtain ⟨packets, owes, sublist⟩ := (streams.streaming session member).frames
    refine ⟨packets, ?_, ?_⟩
    · rw [sameTaken]
      exact owes
    · rw [rest_owed, List.append_nil] at sublist
      rw [oneMore, everyone session member]
      exact sublist.append (List.Sublist.refl _)
  case counted =>
    intro session member _
    have counted := streams.counted session member (by simp)
    rw [rest_owed, List.length_nil, Nat.add_zero] at counted
    rw [oneMore, everyone session member, List.length_append, counted]

/-- While a line is written to, its stream stays in order if it stays aligned. -/
theorem in_order {before after : Line} {given : List Bytes}
    {holds : Bytes → Prop} (sends : Line.Sends before after)
    (throughout : before.Throughout holds after)
    (aligned : ∀ bytes, holds bytes → Delivered given bytes)
    (isGiven : given = packetsSince before.session.label before.calls) :
    Throughout (InOrder before.session.label) before.calls after.calls where
  suffix := throughout.suffix
  moments moment fromStart toEnd := by
    obtain ⟨new, appended, writes⟩ := sends.only
    -- No packet comes in while a line is written to.
    have same : packetsSince before.session.label moment = given := by
      obtain ⟨extra, rfl⟩ := fromStart
      obtain ⟨later, split⟩ := toEnd
      rw [appended, ← List.append_assoc] at split
      rw [isGiven]
      have own : ∀ call ∈ extra, ∃ bytes result,
          call = .write (.client before.session.label) bytes result := by
        intro call member
        apply writes
        rw [← List.append_cancel_right split]
        exact List.mem_append_right later member
      exact History.packetsSince_writes own
    unfold InOrder
    rw [same]
    exact aligned _ (throughout.moments moment fromStart toEnd)

theorem put {offers later : List (Nat × Bytes)} {leaving parted : List (Nat × Parting)}
    {line : Line} (sound : Sound ⟨site, offers, leaving⟩)
    (streams : Streams ⟨site, offers, leaving⟩)
    (found : site.relay.roster.find? session.id = some session)
    (sends : Line.Sends (site.kernel.line session) line)
    (moments : Throughout (InOrder session.label) site.calls line.calls)
    (streaming : Streaming line.calls (owed ⟨site, later, leaving⟩ session.id) line.session)
    (counted : session.id ∉ (leaving ++ parted).map (·.1) →
      line.session.tally.sent + line.session.tally.dropped +
        (owed ⟨site, later, leaving⟩ session.id).length =
        (packetsSince session.label site.calls).length)
    (others : ∀ id ≠ session.id,
      owed ⟨site, later, leaving⟩ id = owed ⟨site, offers, leaving⟩ id) :
    Streams ⟨site.overLine line, later, leaving ++ parted⟩ := by
  obtain ⟨frontier, numbered⟩ := sound.numbered
  obtain ⟨new, appended, writes⟩ := sends.only
  have sameId : line.session.id = session.id := sends.id
  have sameLabel : line.session.label = session.label := sends.label
  have calls : (site.overLine line).calls = new ++ site.calls := appended
  have packets (label : Nat) : packetsSince label (new ++ site.calls) =
      packetsSince label site.calls := History.packetsSince_writes writes
  -- All writes go to the one stream, so they are quiet for every other client.
  have quiet {label : Nat} (different : label ≠ session.label) :
      ∀ call ∈ new, Quiet label call := by
    intro call member
    obtain ⟨bytes, result, rfl⟩ := writes call member
    exact .write (Ne.symm different)
  have labelApart {other : Session} (old : other ∈ site.relay.roster.sessions)
      (different : other.id ≠ session.id) : other.label ≠ session.label := fun same =>
    different (numbered.id_of_label old (Roster.mem_of_find? found).1 same)
  constructor
  case moments =>
    intro label
    refine (streams.moments label).trans ?_
    by_cases own : label = session.label
    · rw [own]
      exact moments
    · change Throughout (InOrder label) site.calls (site.overLine line).calls
      rw [calls]
      exact .append new (streams.moments label).last fun call member calls good =>
        good.cons (quiet own call member)
  case streaming =>
    intro other member
    rcases Roster.mem_update member with rfl | ⟨old, different⟩
    · rw [sameId]
      exact streaming
    · rw [sameId] at different
      obtain ⟨packets', owes, sublist⟩ := (streams.streaming other old).frames
      refine ⟨packets', ?_, ?_⟩
      · change Owes (taken other.label (site.overLine line).calls) _ _
        rw [calls, History.taken_quiet (quiet (labelApart old different))]
        exact owes
      · change (packets' ++ owed ⟨site, later, leaving⟩ other.id).Sublist
          (packetsSince other.label (site.overLine line).calls)
        rw [calls, packets, others other.id different]
        exact sublist
  case counted =>
    intro other member staying
    change other.tally.sent + other.tally.dropped + (owed ⟨site, later, leaving⟩ other.id).length =
      (packetsSince other.label (site.overLine line).calls).length
    rw [calls, packets]
    rcases Roster.mem_update member with rfl | ⟨old, different⟩
    · rw [sameId] at staying ⊢
      rw [sameLabel]
      exact counted staying
    · rw [sameId] at different
      rw [others other.id different]
      refine streams.counted other old fun leaves => staying ?_
      rw [List.map_append]
      exact List.mem_append_left _ leaves

theorem carried_packets (packet : Bytes) (sending : Sending) : ∃ more : List Bytes,
    sending.carried (Frame.wrap packet) = more.map Frame.wrap ∧ more.Sublist [packet] := by
  cases sending with
  | sent | partly => exact ⟨[packet], rfl, List.Sublist.refl _⟩
  | dropped | closed => exact ⟨[], rfl, List.nil_sublist _⟩

theorem offered {packet : Bytes} {offers : List (Nat × Bytes)} {leaving : List (Nat × Parting)}
    {sending : Sending} {line : Line}
    (sound : Sound ⟨site, (session.id, packet) :: offers, leaving⟩)
    (streams : Streams ⟨site, (session.id, packet) :: offers, leaving⟩)
    (found : site.relay.roster.find? session.id = some session)
    (sent : (site.kernel.line session).send (Frame.wrap packet) = (sending, line)) :
    Streams ⟨site.overLine line, offers, leaving ++ sending.partings session.id⟩ := by
  have member := (Roster.mem_of_find? found).1
  have first : owed ⟨site, (session.id, packet) :: offers, leaving⟩ session.id =
      packet :: owed ⟨site, offers, leaving⟩ session.id := by simp [owed]
  have others (id : Nat) (different : id ≠ session.id) : owed ⟨site, offers, leaving⟩ id =
      owed ⟨site, (session.id, packet) :: offers, leaving⟩ id := by
    simp [owed, different.symm]
  obtain ⟨packets, owes, sublist⟩ := (streams.streaming session member).frames
  have sends := Line.Sends.of_send sent
  have result := Line.send_offered (Frame.wrap packet) (site.kernel.line session) owes
  rw [sent] at result
  simp only at result
  have sameLabel : line.session.label = session.label := sends.label
  obtain ⟨new, appended, writes⟩ := sends.only
  have sameSince : packetsSince session.label line.calls =
      packetsSince session.label site.calls := by
    rw [appended]
    exact History.packetsSince_writes writes
  rw [first] at sublist
  -- The frames that count as sent are those of the packets so far, and of this one if it went.
  obtain ⟨more, carried, still⟩ := carried_packets packet sending
  have grown : (packets ++ more ++ owed ⟨site, offers, leaving⟩ session.id).Sublist
      (packetsSince session.label site.calls) := by
    refine List.Sublist.trans ?_ sublist
    rw [List.append_assoc]
    exact (List.Sublist.refl packets).append (still.append (List.Sublist.refl _))
  refine put sound streams found sends ?_ ⟨packets ++ more, ?_, ?_⟩ ?_ others
  · refine in_order sends result.throughout ?_ rfl
    rintro bytes (before | after)
    · exact delivered_of_aligned before ((List.sublist_append_left _ _).trans sublist)
    · rw [carried, ← List.map_append] at after
      exact delivered_of_aligned after ((List.sublist_append_left _ _).trans grown)
  · rw [List.map_append, ← carried]
    exact result.owes
  · rw [sameLabel, sameSince]
    exact grown
  · intro staying
    have connected : (site.kernel.line session).session.connected = true := by
      rcases sound.connected session member with connected | leaves
      · exact connected
      · rw [List.map_append] at staying
        exact absurd (List.mem_append_left _ leaves) staying
    have before := streams.counted session member fun leaves => staying (by
      rw [List.map_append]
      exact List.mem_append_left _ leaves)
    have stays : sending.isClosed = false := by
      cases sending with
      | sent | partly | dropped => rfl
      | closed parting => exact absurd (by simp [Sending.partings]) staying
    rw [first, List.length_cons] at before
    rw [Line.send_counted sent connected stays, ← before]
    exact Nat.add_right_comm ..

theorem flushed {line : Line} {result : Except Parting Unit} {parted : List (Nat × Parting)}
    (sound : Sound (.rest site)) (streams : Streams (.rest site))
    (found : site.relay.roster.find? session.id = some session)
    (flush : (site.kernel.line session).flush = (result, line)) :
    Streams ⟨site.overLine line, [], parted⟩ := by
  have member := (Roster.mem_of_find? found).1
  obtain ⟨packets, owes, sublist⟩ := (streams.streaming session member).frames
  have sends := Line.Sends.of_flush flush
  have paid := Line.flush_owes (site.kernel.line session) owes
  have counts := Line.flush_counts (site.kernel.line session)
  rw [flush] at paid counts
  obtain ⟨afterOwes, throughout⟩ := paid
  have sameLabel : line.session.label = session.label := sends.label
  obtain ⟨new, appended, writes⟩ := sends.only
  have sameSince : packetsSince session.label line.calls =
      packetsSince session.label site.calls := by
    rw [appended]
    exact History.packetsSince_writes writes
  rw [rest_owed, List.append_nil] at sublist
  refine put sound streams found sends ?_ ⟨packets, afterOwes, ?_⟩ ?_ fun _ _ => rfl
  · exact in_order sends throughout (fun bytes aligned => delivered_of_aligned aligned sublist) rfl
  · change (packets ++ []).Sublist _
    rw [List.append_nil, sameLabel, sameSince]
    exact sublist
  · intro _
    rw [counts.1]
    exact streams.counted session member (by simp)

theorem overCircuit {circuit : Circuit} {parted : List (Nat × Parting)}
    (streams : Streams (.rest site)) (found : site.relay.roster.find? session.id = some session)
    (receives : Circuit.Receives (site.kernel.circuit session) circuit) :
    Streams ⟨site.overCircuit circuit, [], parted⟩ := by
  obtain ⟨new, appended, own⟩ := receives.only
  obtain ⟨_, _, _, _, changed⟩ := receives.session
  have quiet (label : Nat) : ∀ call ∈ new, Quiet label call := by
    intro call member
    rcases own call member with ⟨size, result, rfl⟩ | ⟨packet, result, rfl⟩
    · exact .read
    · exact .transmit
  refine streams.quiet new appended (fun label => .inl (quiet label)) rfl ?_
  intro other member
  rcases Roster.mem_update member with rfl | ⟨old, _⟩
  · refine ⟨session, (Roster.mem_of_find? found).1, ?_, (fun leaves => by cases leaves), quiet _⟩
    rw [changed]
    exact ⟨rfl, rfl, rfl, rfl, rfl⟩
  · exact ⟨other, old, ⟨rfl, rfl, rfl, rfl, rfl⟩, (fun leaves => by cases leaves), quiet _⟩

theorem accepting_quiet {label other : Nat} {call : Call} (different : other ≠ label)
    (accepting : Channel.Accepting label call) : Quiet other call := by
  cases accepting with
  | failed | unblocked | resized | closed => exact ⟨rfl, fun _ => rfl⟩
  | accepted => exact ⟨rfl, fun _ => by simp only [packetsSince, if_neg different.symm]⟩

theorem beyond {frontier label : Nat} {kernel : Kernel} (numbered : Numbered frontier site)
    (streams : Streams (.rest site)) (above : frontier < label) (new : List Call)
    (calls : kernel.record.calls = new ++ site.calls)
    (accepting : ∀ call ∈ new, Channel.Accepting label call) :
    Streams (.rest { site with kernel }) ∧ taken label kernel.record.calls = [] := by
  have untouched : taken label site.calls = [] :=
    History.taken_eq_nil label _ fun call member =>
      History.takenBy_other (numbered.untouched above call member)
  have unwritten : ∀ call ∈ new, takenBy label call = [] := by
    intro call member
    cases accepting call member <;> rfl
  constructor
  · refine streams.quiet new calls ?_ rfl ?_
    · intro other
      by_cases own : other = label
      · rw [own]
        exact .inr ⟨untouched, unwritten⟩
      · exact .inl fun call member => accepting_quiet own (accepting call member)
    · intro session member
      have own : session.label ≠ label :=
        Nat.ne_of_lt (Nat.lt_of_le_of_lt (numbered.label_le member) above)
      exact ⟨session, member, ⟨rfl, rfl, rfl, rfl, rfl⟩, (fun leaves => by cases leaves),
        fun call inside => accepting_quiet own (accepting call inside)⟩
  · rw [calls, History.taken_append, untouched, History.taken_eq_nil label new unwritten,
      List.append_nil]

theorem accept {frontier : Nat} {result : Except Errno (Option Nat)} {kernel : Kernel}
    (numbered : Numbered frontier site) (streams : Streams (.rest site))
    (made : site.relay.channel.accept site.kernel = (result, kernel)) :
    Streams (.rest { site with kernel }) ∧ ∀ label, result = .ok (some label) →
      taken label kernel.record.calls = [] ∧ packetsSince label kernel.record.calls = [] := by
  obtain ⟨outcome, knocks, ⟨new, notices⟩, taking, _, always⟩ :=
    Channel.accept_spec site.relay.channel site.kernel.knocks site.kernel.faults.resize
  rw [always site.kernel rfl rfl] at made
  obtain ⟨rfl, same⟩ := Prod.mk.inj made
  have calls : kernel.record.calls = new ++ site.calls := by
    rw [← same]
    rfl
  change Channel.Taking _ _ _ new at taking
  cases taking with
  | without noneTaken suffix failed =>
      constructor
      · exact streams.aside new calls (fun label call member => .failed (failed call member)) rfl
          fun session member => ⟨member, fun leaves => by cases leaves⟩
      · intro label isLabel
        exact absurd isLabel (noneTaken label)
  | @ready label before later resized failed split resizes fails =>
      obtain ⟨⟨above, _⟩, _, _⟩ := numbered.next_waiting split
      obtain ⟨kept, nothing⟩ := streams.beyond numbered above _ calls
        (Channel.accepting_ready resizes fails)
      refine ⟨kept, ?_⟩
      rintro _ ⟨⟩
      refine ⟨nothing, ?_⟩
      have quiet : ∀ call ∈ resized, Quiet label call := by
        intro call member
        obtain ⟨buffer, size, fault, rfl⟩ := resizes call member
        exact ⟨rfl, fun _ => rfl⟩
      rw [calls, List.append_assoc, History.packetsSince_quiet quiet]
      simp [packetsSince]
  | @refused label errno before later failed split fails =>
      obtain ⟨⟨above, _⟩, _, _⟩ := numbered.next_waiting split
      obtain ⟨kept, _⟩ := streams.beyond numbered above _ calls (Channel.accepting_refused fails)
      exact ⟨kept, fun label isLabel => by cases isLabel⟩

theorem enroll {label : Nat} (streams : Streams (.rest site))
    (nothing : taken label site.calls = [])
    (noneGiven : packetsSince label site.calls = []) : Streams (.rest (site.enroll label)) := by
  constructor
  · exact streams.moments
  · intro session member
    rcases List.mem_append.mp member with old | new
    · exact ⟨(streams.streaming session old).frames⟩
    · rw [List.mem_singleton.mp new]
      refine ⟨[], ?_, List.nil_sublist _⟩
      change Owes (taken label site.calls) [] []
      rw [nothing]
      exact ⟨rfl, fun absurdity => absurd rfl absurdity⟩
  · intro session member staying
    rcases List.mem_append.mp member with old | new
    · exact streams.counted session old staying
    · rw [List.mem_singleton.mp new]
      change 0 = (packetsSince label site.calls).length
      rw [noneGiven]
      rfl

/-! ## Steps that write to no client -/

variable {offers : List (Nat × Bytes)} {leaving : List (Nat × Parting)}

theorem still {after : Site} (streams : Streams ⟨site, offers, leaving⟩) (new : List Call)
    (calls : after.calls = new ++ site.calls)
    (quiet : ∀ label, ∀ call ∈ new, Quiet label call)
    (sessions : after.relay.roster.sessions ⊆ site.relay.roster.sessions) :
    Streams ⟨after, offers, leaving⟩ :=
  streams.aside new calls quiet rfl fun _ member => ⟨sessions member, id⟩

theorem poll (streams : Streams (.rest site)) {result : Except Errno (List Kernel.Flags)}
    {kernel : Kernel} (made : site.kernel.poll site.relay.pollTimeout
      ((Site.watched site.relay).map (·.2)) = (result, kernel)) :
    Streams (.rest { site with kernel }) := by
  obtain ⟨_, _, _, _, answer, polled⟩ := Kernel.poll_frame site.relay.pollTimeout
    ((Site.watched site.relay).map (·.2)) site.kernel
  rw [made] at polled
  refine streams.still [.poll _ _ answer] (congrArg (·.record.calls) polled) ?_
    (List.Subset.refl _)
  exact fun _ => List.forall_mem_singleton.mpr ⟨rfl, fun _ => rfl⟩

theorem left {parting : Parting} (ordered : site.relay.roster.Ordered)
    (streams : Streams ⟨site, [], (session.id, parting) :: leaving⟩) :
    Streams ⟨site.leave session parting, [], leaving⟩ := by
  refine streams.aside [.close (.client session.label)] rfl
    (fun _ => List.forall_mem_singleton.mpr .close) rfl ?_
  intro other member
  obtain ⟨old, different⟩ := (Roster.mem_remove ordered).mp member
  exact ⟨old, fun leaves => (List.mem_cons.mp leaves).resolve_left different⟩

theorem closeTunnel (streams : Streams (.rest site)) : Streams (.rest site.closeTunnel) := by
  unfold Site.closeTunnel
  split
  · exact streams
  · exact streams.still [.close .tunnel] rfl (fun _ => List.forall_mem_singleton.mpr .close)
      (List.Subset.refl _)

theorem dismiss {others : List Session} (streams : Streams (.rest site))
    (sessions : site.relay.roster.sessions = session :: others) :
    Streams (.rest (site.dismiss session others)) := by
  refine streams.still [.close (.client session.label)] rfl
    (fun _ => List.forall_mem_singleton.mpr .close) ?_
  rw [sessions]
  exact List.subset_cons_self session others

theorem closeChannel (streams : Streams (.rest site)) : Streams (.rest site.closeChannel) := by
  obtain ⟨closed, left, new, own, _, made⟩ := site.closeChannel_spec
  rw [made]
  refine streams.still new.calls rfl ?_ (List.Subset.refl _)
  intro label call member
  rcases own call member with rfl | ⟨path, failure, rfl⟩
  · exact .close
  · exact ⟨rfl, fun _ => rfl⟩

end Streams
end Stage

/-! ## Every step keeps the streams in order -/

open Stage (Streams)

theorem Turn.streams (stage next : Stage) (turn : Turn stage next) (sound : stage.Sound)
    (streams : stage.Streams) : next.Streams := by
  cases turn with
  | noted stage notice plain => exact streams.still [] rfl (by simp) (List.Subset.refl _)
  | polled site => exact streams.poll rfl
  | idle received => exact streams.idle received (by rintro packet ⟨⟩)
  | took received legal =>
      exact streams.took sound received ((Frame.encode_eq_ok_iff _ _).mp legal).1
  | @dropped site packet handle violation received illegal =>
      have unframed := streams.idle received (by
        rintro _ ⟨⟩ legal
        rw [(Frame.encode_eq_ok_iff packet (Frame.wrap packet)).mpr ⟨legal, rfl⟩] at illegal
        cases illegal)
      exact unframed.still [] rfl (by simp) (List.Subset.refl _)
  | offered found sent => exact streams.offered sound found sent
  | flushed found flush => exact streams.flushed sound found flush
  | broke found flush => exact streams.flushed sound found flush
  | read found served => exact streams.overCircuit found (.of_read served)
  | hungUp found =>
      exact streams.aside [] rfl (by simp) rfl
        fun session member => ⟨member, fun leaves => by cases leaves⟩
  | left found => exact streams.left sound.ordered
  | @accepted site label kernel taken =>
      obtain ⟨frontier, numbered⟩ := sound.numbered
      obtain ⟨accepted, fresh⟩ := Streams.accept numbered streams taken
      obtain ⟨nothing, noneGiven⟩ := fresh label rfl
      exact accepted.enroll nothing noneGiven
  | refused taken noneTaken =>
      obtain ⟨frontier, numbered⟩ := sound.numbered
      exact (Streams.accept numbered streams taken).1
  | closedTunnel site => exact streams.closeTunnel
  | dismissed sessions => exact streams.dismiss sessions
  | closedChannel site => exact streams.closeChannel
  | marked site running => exact streams.still [] rfl (by simp) (List.Subset.refl _)

theorem Fatal.streams (site : Site) (failure : Failure) (after : Site)
    (fatal : Fatal site failure after) (streams : Streams (.rest site)) :
    Streams (.rest after) := by
  cases fatal with
  | poll failed serious => exact streams.poll failed
  | receive failed => exact streams.idle failed (by rintro packet ⟨⟩)
  | transmit found failed => exact streams.overCircuit found (.of_read failed)

theorem streams_kept : Site.Kept Streams where
  turn := Turn.streams
  deed site deed _ streams := by
    have same := congrArg Record.calls (Kernel.undergo_record deed site.kernel)
    exact streams.still [] same (by simp) (List.Subset.refl _)

theorem Site.Opened.streams {site : Site} (opened : site.Opened) : Streams (.rest site) := by
  have silent {call : Call} (member : call ∈ site.calls) (label : Nat) :
      takenBy label call = [] := by
    apply History.takenBy_other
    rw [(opened.silent member).2]
    rintro ⟨⟩
  have start : Throughout (fun calls => ∀ label, taken label calls = []) [] (site.calls ++ []) :=
    .append site.calls (fun label => rfl) fun call member calls nothing label => by
      rw [History.taken_cons, nothing label, silent member label, List.append_nil]
  rw [List.append_nil] at start
  constructor
  · intro label
    exact start.imp fun calls nothing => .of_nothing (nothing label)
  · simp [opened.roster]
  · simp [opened.roster]

namespace Site

/-- At every moment of every run the stream of a client has taken, of the legal
packets that the tunnel gave since it was accepted, some whole frames in order
and perhaps the beginning of one more; and while it is on the roster each of
those packets counts as sent or as dropped. -/
theorem delivery_in_order (site : Site) (opened : site.Opened) (moves : List Move) (label : Nat) :
    (∀ moment, moment <:+ (site.play moves).calls →
      Delivered (packetsSince label moment) (taken label moment)) ∧
    ∀ session ∈ (site.play moves).relay.roster.sessions, session.label = label →
      session.tally.sent + session.tally.dropped =
        (packetsSince label (site.play moves).calls).length := by
  have survives : site.Survives Streams moves :=
    .inr fun site failure after fatal _ streams => fatal.streams site failure after streams
  obtain ⟨_, streams⟩ := play_kept streams_kept moves survives ⟨opened.sound, opened.streams⟩
  constructor
  · intro moment suffix
    exact (streams.moments label).moments moment (List.nil_suffix) suffix
  · rintro session member rfl
    exact streams.counted session member (by simp)

/-- One packet for one client, whose stream takes three bytes of the frame. -/
theorem delivery_cut_short :
    let site := fresh {}
    let moves : List Move := [.world (.connect 1 none), .pass,
      .world (.supplyClient 1 { outbound := [.upTo 3] }),
      .world (.supplyTunnel { inbound := [.data [7, 8]] }), .pass]
    site.Opened ∧ taken 1 (site.play moves).calls = [0, 0, 0] ∧
      (∀ moment, moment <:+ (site.play moves).calls →
        Delivered (packetsSince 1 moment) (taken 1 moment)) ∧
      ∀ session ∈ (site.play moves).relay.roster.sessions, session.label = 1 →
        session.tally.sent + session.tally.dropped =
          (packetsSince 1 (site.play moves).calls).length :=
  ⟨fresh_opened {}, by decide +kernel, delivery_in_order (fresh {}) (fresh_opened {}) _ 1⟩

end Site
end PacketRelay
