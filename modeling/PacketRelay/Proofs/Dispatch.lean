import PacketRelay.Proofs.Lockstep

/-!
Serving the tunnel and the channel in two runs that differ only in what one
client does. The others are offered the same frames and closed for the same
reasons, and the same connections are accepted.
-/

namespace PacketRelay

open Kernel (Call Endpoint Handle Flags Descriptor)
open History (besides named offered partings)

/-! ## One client's line in the kernel -/

namespace Kernel.Alike

variable {label : Nat} {one two : Kernel}

theorem line (alike : one.Alike label two) {session other : Session}
    (same : session.bare = other.bare) (different : session.label ≠ label) :
    (one.line session).Alike label (two.line other) where
  session := same
  stream := by
    obtain ⟨n, rfl⟩ := Session.eq_of_bare same
    exact alike.clients session.label different
  record := alike.record

theorem overLine (alike : one.Alike label two) {left right : Line}
    (lines : left.Alike label right) : (one.overLine left).Alike label (two.overLine right) := by
  have kept := alike.setClient left.session.label left.stream
  unfold Kernel.overLine
  rw [← lines.label_eq, ← lines.stream]
  exact kept.withRecord lines.record

theorem overLine_own {line : Line} (own : line.session.label = label)
    (record : line.record.Alike label one.record) : (one.overLine line).Alike label one := by
  have kept := Alike.own one line.session.label line.stream
  rw [own] at kept
  unfold Kernel.overLine
  rw [own]
  exact ⟨kept.tunnel, kept.clients, kept.bare, record⟩

theorem overTunnel (alike : one.Alike label two) {left right : Endpoint}
    (tunnels : left.Alike right) :
    Alike label { one with tunnel := left } { two with tunnel := right } :=
  ⟨tunnels, alike.clients, alike.bare, alike.record⟩

end Kernel.Alike

namespace Roster

variable {label : Nat}

/-! ## Broadcasts -/

variable {α : Type}

/-- What became of another client's session, with the session as it is seen then. -/
def fateBesides (label : Nat) (made : Session × α) : Option (Session × α) :=
  (made.1.besides label).map fun session => (session, made.2)

theorem fateBesides_other {session : Session} (fate : α) (different : session.label ≠ label) :
    fateBesides label (session, fate) = some (session.bare, fate) := by
  simp [fateBesides, Session.besides, different]

theorem fateBesides_own {session : Session} (fate : α) (own : session.label = label) :
    fateBesides label (session, fate) = none := by
  simp [fateBesides, Session.besides, own]

theorem fateBesides_some {session seen : Session} {fate outcome : α}
    (sees : fateBesides label (session, fate) = some (seen, outcome)) :
    session.label ≠ label ∧ session.bare = seen ∧ fate = outcome := by
  obtain ⟨_, visible, same⟩ := Option.map_eq_some_iff.mp sees
  cases same
  obtain ⟨different, bare⟩ := Session.besides_some visible
  exact ⟨different, bare, rfl⟩

theorem fateBesides_none {session : Session} {fate : α}
    (unseen : fateBesides label (session, fate) = none) : session.label = label :=
  Session.besides_none (Option.map_eq_none_iff.mp unseen)

theorem offer_alike (frame : Bytes) {left right : List Session} {one two : Kernel}
    (sessions : Interleaved (Session.besides label) left right) (alike : one.Alike label two) :
    Interleaved (fateBesides label) (offer frame left one).1 (offer frame right two).1 ∧
      (offer frame left one).2.Alike label (offer frame right two).2 := by
  induction sessions generalizing one two with
  | nil => exact ⟨.nil, alike⟩
  | @both session other seen left right sees alsoSees _ ih =>
      obtain ⟨different, bare⟩ := Session.besides_some sees
      obtain ⟨alsoDifferent, alsoBare⟩ := Session.besides_some alsoSees
      have sent := Line.send_agree (alike.line (bare.trans alsoBare.symm) different) frame
      have labelKept : ((one.line session).send frame).2.session.label ≠ label := by
        rw [(Line.send_sends frame (one.line session)).label]
        exact different
      have alsoKept : ((two.line other).send frame).2.session.label ≠ label := by
        rw [(Line.send_sends frame (two.line other)).label]
        exact alsoDifferent
      have same := fateBesides_other ((two.line other).send frame).1 alsoKept
      rw [← sent.after.session] at same
      obtain ⟨offers, kernels⟩ := ih (alike.overLine sent.after)
      simp only [offer]
      refine ⟨.both (fateBesides_other _ labelKept) ?_ offers, kernels⟩
      rw [sent.result]
      exact same
  | @left session left right unseen _ ih =>
      -- It is the client's own turn, in one run: nothing changes besides it.
      have own := Session.besides_none unseen
      have sends := Line.send_sends frame (one.line session)
      have kept : (one.overLine ((one.line session).send frame).2).Alike label two :=
        (Kernel.Alike.overLine_own (sends.label.trans own) (sends.besides own)).trans alike
      obtain ⟨offers, kernels⟩ := ih kept
      exact ⟨.left (fateBesides_own _ (sends.label.trans own)) offers, kernels⟩
  | @right session left right unseen _ ih =>
      have own := Session.besides_none unseen
      have sends := Line.send_sends frame (two.line session)
      have kept : one.Alike label (two.overLine ((two.line session).send frame).2) :=
        alike.trans (Kernel.Alike.overLine_own (sends.label.trans own) (sends.besides own)).symm
      obtain ⟨offers, kernels⟩ := ih kept
      exact ⟨.right (fateBesides_own _ (sends.label.trans own)) offers, kernels⟩

theorem offer_calls (frame : Bytes) (sessions : List Session) (kernel : Kernel) :
    kernel.record.calls <:+ (offer frame sessions kernel).2.record.calls := by
  induction sessions generalizing kernel with
  | nil => exact List.suffix_rfl
  | cons session rest ih =>
      have sends := Line.send_sends frame (kernel.line session)
      exact sends.grows.trans (ih (kernel.overLine ((kernel.line session).send frame).2))

theorem offer_named (frame : Bytes) {sessions : List Session} {kernel : Kernel}
    (names : ∀ session ∈ sessions, named kernel.record.calls session.id = some session.label) :
    ∀ made ∈ (offer frame sessions kernel).1,
      named (offer frame sessions kernel).2.record.calls made.1.id = some made.1.label := by
  induction sessions generalizing kernel with
  | nil => simp [offer]
  | cons session rest ih =>
      have sends := Line.send_sends frame (kernel.line session)
      let next := kernel.overLine ((kernel.line session).send frame).2
      have longer : kernel.record.calls <:+ next.record.calls := sends.grows
      have later := @ih next fun other member =>
        History.named_suffix longer (names other (List.mem_cons_of_mem _ member))
      intro made member
      simp only [offer, List.mem_cons] at member ⊢
      rcases member with rfl | inside
      · have own := names session List.mem_cons_self
        dsimp only
        rw [sends.id, sends.label]
        exact History.named_suffix (longer.trans (offer_calls frame rest next)) own
      · exact later made inside

theorem others_cons {session other : Session} {left right : List Session}
    (same : session.besides label = other.besides label)
    (rest : others label left = others label right) :
    others label (session :: left) = others label (other :: right) := by
  unfold others at rest ⊢
  simp only [List.filterMap_cons, same, rest]

theorem staying_alike {left right : List (Session × Sending)}
    (offers : Interleaved (fateBesides label) left right) :
    others label ((left.filter fun made => (closedBy made).isNone).map (·.1)) =
      others label ((right.filter fun made => (closedBy made).isNone).map (·.1)) := by
  -- Whoever is seen in both runs had the same outcome; the client itself may stay or leave.
  induction offers with
  | nil => rfl
  | @both one two seen left right sees alsoSees _ ih =>
      obtain ⟨session, sending⟩ := one
      obtain ⟨other, alsoSending⟩ := two
      obtain ⟨seen, outcome⟩ := seen
      obtain ⟨different, bare, same⟩ := fateBesides_some sees
      obtain ⟨alsoDifferent, alsoBare, alsoSame⟩ := fateBesides_some alsoSees
      subst outcome alsoSending
      have both : session.besides label = other.besides label := by
        simp only [Session.besides, if_neg different, if_neg alsoDifferent]
        exact congrArg some (bare.trans alsoBare.symm)
      cases sending with
      | closed parting => simpa [closedBy] using ih
      | sent | partly | dropped => exact others_cons both ih
  | @left one left right unseen _ ih =>
      obtain ⟨session, sending⟩ := one
      have own : session.besides label = none := if_pos (fateBesides_none unseen)
      cases closed : closedBy (session, sending) with
      | none => simpa [closed, others, own] using ih
      | some leaver => simpa [closed] using ih
  | @right two left right unseen _ ih =>
      obtain ⟨session, sending⟩ := two
      have own : session.besides label = none := if_pos (fateBesides_none unseen)
      cases closed : closedBy (session, sending) with
      | none => simpa [closed, others, own] using ih
      | some leaver => simpa [closed] using ih

theorem closed_alike {left right : List (Session × Sending)}
    (offers : Interleaved (fateBesides label) left right) :
    Interleaved (fateBesides label) (left.filterMap closedBy) (right.filterMap closedBy) := by
  induction offers with
  | nil => exact .nil
  | @both one two seen left right sees alsoSees _ ih =>
      obtain ⟨session, sending⟩ := one
      obtain ⟨other, alsoSending⟩ := two
      obtain ⟨seen, outcome⟩ := seen
      obtain ⟨different, bare, same⟩ := fateBesides_some sees
      obtain ⟨alsoDifferent, alsoBare, alsoSame⟩ := fateBesides_some alsoSees
      subst outcome alsoSending
      cases sending with
      | closed parting =>
          have first := fateBesides_other parting different
          have second := fateBesides_other parting alsoDifferent
          rw [alsoBare, ← bare] at second
          exact .both first second ih
      | sent | partly | dropped => exact ih
  | @left one left right unseen _ ih =>
      obtain ⟨session, sending⟩ := one
      have own := fateBesides_none unseen
      cases sending with
      | closed parting => exact .left (fateBesides_own parting own) ih
      | sent | partly | dropped => exact ih
  | @right two left right unseen _ ih =>
      obtain ⟨session, sending⟩ := two
      have own := fateBesides_none unseen
      cases sending with
      | closed parting => exact .right (fateBesides_own parting own) ih
      | sent | partly | dropped => exact ih

end Roster

namespace Site

variable {label : Nat} {one two : Site} {session other : Session}

/-! ## Taking leave -/

theorem absorb_alike (alike : Alike label one two) (same : session.label = other.label) :
    Alike label (one.absorb session) (two.absorb other) where
  relay := alike.relay
  kernel := by
    unfold absorb Kernel.close
    rw [same]
    exact alike.kernel.call _ rfl

theorem absorb_besides (site : Site) (own : session.label = label) :
    Alike label (site.absorb session) site where
  relay := rfl
  kernel := by
    refine (Kernel.Alike.refl label _).withRecord (.quiet [.close _] rfl rfl ?_ ?_)
    · simp [Call.swayedBy, own]
    · simp [Call.submits]

theorem retire_alike (alike : Alike label one two) (same : session.bare = other.bare)
    (parting : Parting) : Alike label (one.retire session parting) (two.retire other parting) := by
  obtain ⟨n, changed⟩ := Session.eq_of_bare same
  have sameId : session.id = other.id := by rw [changed]
  have sameLabel : session.label = other.label := by rw [changed]
  have parted : Alike label (one.note (.parted session.id parting))
      (two.note (.parted other.id parting)) := by
    rw [sameId]
    exact ⟨alike.relay, alike.kernel.withRecord (alike.kernel.record.same ⟨[], [_]⟩ (by simp))⟩
  exact (absorb_alike parted sameLabel).note rfl rfl

theorem retire_besides (site : Site) (own : session.label = label)
    (name : named site.calls session.id = some label) (parting : Parting) :
    Alike label (site.retire session parting) site := by
  have parted : Alike label (site.note (.parted session.id parting)) site := by
    refine ⟨rfl, (Kernel.Alike.refl label _).withRecord ⟨rfl, fun _ _ => rfl, ?_⟩⟩
    intro id unnamed
    have different : session.id ≠ id := fun same => unnamed (same ▸ name)
    simp [partings, History.partingFrom, Record.note, different]
  exact (Alike.noted label _ rfl).trans ((absorb_besides _ own).trans parted)

def Known (site : Site) : Prop :=
  ∀ session ∈ site.relay.roster.sessions, named site.calls session.id = some session.label

theorem known_of_sound {site : Site} (sound : Stage.Sound (.rest site)) : site.Known := by
  obtain ⟨frontier, numbered⟩ := sound.numbered
  exact numbered.named

theorem retireAll_alike {left right : List (Session × Parting)}
    (leavers : Interleaved (Roster.fateBesides label) left right) (alike : Alike label one two)
    (names : ∀ leaver ∈ left, named one.calls leaver.1.id = some leaver.1.label)
    (alsoNames : ∀ leaver ∈ right, named two.calls leaver.1.id = some leaver.1.label) :
    Alike label (left.foldl (fun site (session, parting) => site.retire session parting) one)
      (right.foldl (fun site (session, parting) => site.retire session parting) two) := by
  -- Retiring one session takes no name from those that are to follow.
  have still {site : Site} {rest : List (Session × Parting)} (session : Session) (parting : Parting)
      (names : ∀ leaver ∈ rest, named site.calls leaver.1.id = some leaver.1.label) :
      ∀ leaver ∈ rest,
        named (site.retire session parting).calls leaver.1.id = some leaver.1.label :=
    fun leaver member => History.named_append [.close _] (names leaver member)
  induction leavers generalizing one two with
  | nil => exact alike
  | @both leaver other seen left right sees alsoSees _ ih =>
      obtain ⟨session, parting⟩ := leaver
      obtain ⟨other, alsoParting⟩ := other
      obtain ⟨seen, outcome⟩ := seen
      obtain ⟨_, bare, same⟩ := Roster.fateBesides_some sees
      obtain ⟨_, alsoBare, alsoSame⟩ := Roster.fateBesides_some alsoSees
      subst outcome alsoParting
      exact ih (retire_alike alike (bare.trans alsoBare.symm) parting)
        (still session parting fun leaver member => names leaver (List.mem_cons_of_mem _ member))
        (still other parting fun leaver member => alsoNames leaver (List.mem_cons_of_mem _ member))
  | @left leaver left right unseen _ ih =>
      obtain ⟨session, parting⟩ := leaver
      have own := Roster.fateBesides_none unseen
      have name := names _ List.mem_cons_self
      rw [own] at name
      exact ih ((retire_besides one own name parting).trans alike)
        (still session parting fun leaver member => names leaver (List.mem_cons_of_mem _ member))
        alsoNames
  | @right leaver left right unseen _ ih =>
      obtain ⟨session, parting⟩ := leaver
      have own := Roster.fateBesides_none unseen
      have name := alsoNames _ List.mem_cons_self
      rw [own] at name
      exact ih (alike.trans (retire_besides two own name parting).symm) names
        (still session parting fun leaver member =>
          alsoNames leaver (List.mem_cons_of_mem _ member))

/-! ## The tunnel -/

theorem leaver_named {offers : List (Session × Sending)} {calls : List Call}
    (names : ∀ made ∈ offers, named calls made.1.id = some made.1.label) :
    ∀ leaver ∈ offers.filterMap Roster.closedBy,
      named calls leaver.1.id = some leaver.1.label := by
  intro leaver member
  obtain ⟨made, inside, closed⟩ := List.mem_filterMap.mp member
  rw [Roster.closedBy_session closed]
  exact names made inside

theorem noted_unless (label : Nat) (silent : Prop) [Decidable silent] (site : Site)
    {notice : Log.Notice} (plain : notice.isParting = false) :
    Alike label (if silent then site else site.note notice) site := by
  split
  · exact .refl label site
  · exact .noted label site plain

theorem fanOut_alike (frame : Bytes) (alike : Alike label one two) (known : one.Known)
    (alsoKnown : two.Known) (ordered : one.relay.roster.Ordered)
    (alsoOrdered : two.relay.roster.Ordered) :
    Alike label (one.fanOut frame) (two.fanOut frame) := by
  obtain ⟨offers, kernels⟩ :=
    Roster.offer_alike frame (.of_filterMap alike.others) alike.kernel
  have names := leaver_named (Roster.offer_named frame known)
  have alsoNames := leaver_named (Roster.offer_named frame alsoKnown)
  have offered := alike.putBack (Roster.staying_alike offers) kernels
  unfold fanOut
  rw [Roster.broadcast_eq _ _ ordered, Roster.broadcast_eq _ _ alsoOrdered]
  apply retireAll_alike (Roster.closed_alike offers)
  · refine (noted_unless label _ _ ?_).trans (offered.trans (noted_unless label _ _ ?_).symm)
    · rfl
    · rfl
  · dsimp only
    split
    · exact names
    · exact names
  · dsimp only
    split
    · exact alsoNames
    · exact alsoNames

theorem countPacket_alike (name : String) (packet : Bytes) (alike : Alike label one two) :
    Alike label (one.countPacket name packet) (two.countPacket name packet) := by
  have same : one.relay.fromTunnel = two.relay.fromTunnel := by
    have counts := congrArg Relay.fromTunnel alike.relay
    exact counts
  have noted : Alike label (one.note (.tunnelGave name packet))
      (two.note (.tunnelGave name packet)) := alike.note rfl rfl
  have counted := noted.change
    (fun relay => { relay with fromTunnel := one.relay.fromTunnel + 1 }) fun _ => rfl
  unfold countPacket
  rw [same] at counted ⊢
  dsimp only
  split
  · exact counted.note rfl rfl
  · exact counted

theorem countPacket_known {site : Site} (name : String) (packet : Bytes) (known : site.Known) :
    (site.countPacket name packet).Known := by
  unfold countPacket
  dsimp only
  split
  · exact known
  · exact known

theorem relayPacket_alike (name : String) (packet : Bytes) (alike : Alike label one two)
    (known : one.Known) (alsoKnown : two.Known) (ordered : one.relay.roster.Ordered)
    (alsoOrdered : two.relay.roster.Ordered) :
    Alike label (one.relayPacket name packet) (two.relayPacket name packet) := by
  have counted := countPacket_alike name packet alike
  unfold relayPacket
  cases Frame.encode packet with
  | ok frame =>
      exact fanOut_alike frame counted (countPacket_known name packet known)
        (countPacket_known name packet alsoKnown) (countPacket_roster name packet one ▸ ordered)
        (countPacket_roster name packet two ▸ alsoOrdered)
  | error violation =>
      have dropped := counted.change
        (fun relay => { relay with unframeable := relay.unframeable + 1 }) fun _ => rfl
      exact dropped.note rfl rfl

theorem receive_follows {size : Nat} {received : Except Errno (Option Bytes)} {handle : Handle}
    (alike : Alike label one two)
    (made : Tunnel.receive size one.kernel.tunnelHandle = (received, handle)) :
    ∃ other, Tunnel.receive size two.kernel.tunnelHandle = (received, other) ∧
      Alike label (one.overTunnel handle) (two.overTunnel other) := by
  have handles : one.kernel.tunnelHandle.Alike label two.kernel.tunnelHandle :=
    ⟨rfl, alike.kernel.tunnel, alike.kernel.record⟩
  obtain ⟨same, after⟩ := Tunnel.receive_alike size handles
  rw [made] at same after
  exact ⟨(Tunnel.receive size two.kernel.tunnelHandle).2, Prod.ext same.symm rfl, alike.relay,
    after.endpoint, alike.kernel.clients, alike.kernel.bare, after.record⟩

theorem readTunnel_unfolds (site : Site) :
    site.readTunnel =
      match site.relay.tunnel with
      | none => (.ok (), site)
      | some name =>
          match Tunnel.receive Tunnel.maxPacketSize site.kernel.tunnelHandle with
          | (.error errno, handle) => (.error (.tunnelIo errno), site.overTunnel handle)
          | (.ok none, handle) => (.ok (), site.overTunnel handle)
          | (.ok (some packet), handle) =>
              match site.relay.readMode with
              | .single => (.ok (), (site.overTunnel handle).relayPacket name packet)
              | .drain => ((site.overTunnel handle).relayPacket name packet).readTunnel := by
  rw [readTunnel]
  cases site.relay.tunnel with
  | none => rfl
  | some name =>
      simp only
      split
      · next failed => rw [failed]
      · next idle => rw [idle]
      · next served =>
          cases site.relay.readMode with
          | single => simp only [served]
          | drain => simp only [served]

theorem overTunnel_known {site : Site} {size : Nat} {received : Except Errno (Option Bytes)}
    {handle : Handle} (made : Tunnel.receive size site.kernel.tunnelHandle = (received, handle))
    (known : site.Known) : (site.overTunnel handle).Known := by
  obtain ⟨_, _, _, _, record⟩ := Tunnel.receive_record made
  have calls : (site.overTunnel handle).calls = _ ++ site.calls := congrArg Record.calls record
  intro session member
  rw [calls]
  exact History.named_append _ (known session member)

theorem readTunnel_alike (alike : Alike label one two) (sound : Stage.Sound (.rest one))
    (alsoSound : Stage.Sound (.rest two)) (passed : one.readTunnel.1 = .ok ())
    (alsoPassed : two.readTunnel.1 = .ok ()) :
    Alike label one.readTunnel.2 two.readTunnel.2 := by
  have unfolded := readTunnel_unfolds two
  -- The induction is along the first run. The second has the same tunnel, so it reads as often.
  fun_induction readTunnel one generalizing two with
  | case1 one absent =>
      rw [← alike.tunnel, absent] at unfolded
      rw [unfolded]
      exact alike
  | case2 one name present errno handle failed => cases passed
  | case3 one name present handle received =>
      obtain ⟨other, alsoReceived, after⟩ := receive_follows alike received
      rw [← alike.tunnel, present, alsoReceived] at unfolded
      rw [unfolded]
      exact after
  | case4 one name present packet handle received after =>
      rename_i single
      obtain ⟨other, alsoReceived, taken⟩ := receive_follows alike received
      rw [← alike.tunnel, present, alsoReceived, ← alike.readMode, single] at unfolded
      rw [unfolded]
      exact relayPacket_alike name packet taken (overTunnel_known received (known_of_sound sound))
        (overTunnel_known alsoReceived (known_of_sound alsoSound)) sound.ordered
        alsoSound.ordered
  | case5 one name present packet handle received after =>
      rename_i drain ih
      obtain ⟨other, alsoReceived, taken⟩ := receive_follows alike received
      rw [← alike.tunnel, present, alsoReceived, ← alike.readMode, drain] at unfolded
      rw [unfolded] at alsoPassed ⊢
      have relayed := relayPacket_alike name packet taken
        (overTunnel_known received (known_of_sound sound))
        (overTunnel_known alsoReceived (known_of_sound alsoSound)) sound.ordered
        alsoSound.ordered
      have onePath := relayPacket_path name packet handle one sound.ordered received present
      have twoPath := relayPacket_path name packet other two alsoSound.ordered alsoReceived
        (alike.tunnel ▸ present)
      exact ih relayed (onePath.sound sound) (twoPath.sound alsoSound) passed alsoPassed
        (readTunnel_unfolds _)

/-! ## The channel -/

theorem taking_silent {knocks later : List Kernel.Knock} {result : Except Errno (Option Nat)}
    {calls : List Call} (taking : Channel.Taking knocks result later calls) :
    ∀ call ∈ calls, call.submits = false := by
  obtain ⟨client, accepting⟩ := taking.accepting
  intro call member
  cases accepting call member <;> rfl

theorem accept_follows {result : Except Errno (Option Nat)} {kernel : Kernel}
    (alike : Alike label one two)
    (made : one.relay.channel.accept one.kernel = (result, kernel)) :
    ∃ other, two.relay.channel.accept two.kernel = (result, other) ∧
      kernel.Alike label other := by
  obtain ⟨taken, later, new, taking, _, outcome⟩ :=
    Channel.accept_spec one.relay.channel one.kernel.knocks one.kernel.faults.resize
  rw [outcome one.kernel rfl rfl] at made
  cases made
  rw [← alike.channel, outcome two.kernel alike.kernel.knocks.symm (by rw [alike.kernel.faults])]
  have takenOff := alike.kernel.change (fun kernel => { kernel with knocks := later })
    (fun _ => rfl) (fun _ => rfl) (fun _ => rfl) fun _ => rfl
  exact ⟨_, rfl, takenOff.withRecord (alike.kernel.record.same new (taking_silent taking))⟩

theorem enroll_alike (client : Nat) (alike : Alike label one two) :
    Alike label (one.enroll client) (two.enroll client) := by
  let joined (relay : Relay) : Relay :=
    { relay with
      roster.sessions := relay.roster.sessions ++
        PacketRelay.others label [{ id := relay.roster.issued + 1, label := client }]
      roster.issued := relay.roster.issued + 1
      connections := relay.connections + 1 }
  have joins (site : Site) :
      (site.enroll client).relay.besides label = joined (site.relay.besides label) := by
    simp [enroll, Roster.insert, Relay.besides, joined, others, List.filterMap_append]
  constructor
  · rw [joins, joins, alike.relay]
  · exact alike.kernel.note rfl rfl

theorem acceptClients_unfolds (site : Site) :
    site.acceptClients =
      match site.relay.channel.accept site.kernel with
      | (.ok none, kernel) => { site with kernel }
      | (.error errno, kernel) => { site with kernel := kernel.note (.acceptFailed errno) }
      | (.ok (some label), kernel) => ({ site with kernel }.enroll label).acceptClients := by
  rw [acceptClients]
  split <;> simp_all

theorem acceptClients_alike (alike : Alike label one two) :
    Alike label one.acceptClients two.acceptClients := by
  have unfolded := acceptClients_unfolds two
  fun_induction acceptClients one generalizing two with
  | case1 one kernel made =>
      obtain ⟨other, alsoMade, kernels⟩ := accept_follows alike made
      rw [alsoMade] at unfolded
      rw [unfolded]
      exact alike.withKernel kernels
  | case2 one errno kernel made =>
      obtain ⟨other, alsoMade, kernels⟩ := accept_follows alike made
      rw [alsoMade] at unfolded
      rw [unfolded]
      exact alike.withKernel (kernels.note rfl rfl)
  | case3 one client kernel made ih =>
      obtain ⟨other, alsoMade, kernels⟩ := accept_follows alike made
      rw [alsoMade] at unfolded
      rw [unfolded]
      exact ih (enroll_alike client (alike.withKernel kernels)) (acceptClients_unfolds _)

end Site
end PacketRelay
