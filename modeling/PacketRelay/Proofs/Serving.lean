import PacketRelay.Proofs.Dispatch

/-!
Serving clients in two runs that differ only in what one client does. When that
client is served nothing changes besides it. When another is served the same is
done for it in both runs, as long as the tunnel fails in neither.
-/

namespace PacketRelay

open Kernel (Call Endpoint Flags Descriptor)
open History (named)

namespace Site

variable {label : Nat} {one two : Site} {session other : Session}

/-! ## Serving a client -/

structure Orderly (site : Site) : Prop where
  ordered : site.relay.roster.Ordered
  numbered : ∃ frontier, Numbered frontier site

namespace Orderly

variable {site : Site} {id client : Nat}

theorem of_sound (sound : Stage.Sound (.rest site)) : site.Orderly :=
  ⟨sound.ordered, sound.numbered⟩

theorem known (orderly : site.Orderly) : site.Known := by
  obtain ⟨frontier, numbered⟩ := orderly.numbered
  exact numbered.named

theorem label_eq (orderly : site.Orderly) (name : named site.calls id = some client) :
    ∀ session ∈ site.relay.roster.sessions, session.id = id → session.label = client := by
  rintro session member rfl
  exact Option.some.inj ((orderly.known session member).symm.trans name)

theorem name (orderly : site.Orderly) (found : site.relay.roster.find? id = some session) :
    named site.calls id = some session.label := by
  obtain ⟨member, rfl⟩ := Roster.mem_of_find? found
  exact orderly.known session member

theorem overLine (orderly : site.Orderly) {line : Line}
    (found : site.relay.roster.find? session.id = some session)
    (sends : Line.Sends (site.kernel.line session) line) : (site.overLine line).Orderly := by
  obtain ⟨frontier, numbered⟩ := orderly.numbered
  exact ⟨Roster.update_ordered _ orderly.ordered, frontier, numbered.overLine found sends⟩

theorem overCircuit (orderly : site.Orderly) {circuit : Circuit}
    (found : site.relay.roster.find? session.id = some session)
    (receives : Circuit.Receives (site.kernel.circuit session) circuit) :
    (site.overCircuit circuit).Orderly := by
  obtain ⟨frontier, numbered⟩ := orderly.numbered
  exact ⟨Roster.update_ordered _ orderly.ordered, frontier, numbered.overCircuit found receives⟩

end Orderly

/-! For the client itself nothing changes besides it. -/

section

variable {site : Site}

theorem closeSession_besides (orderly : site.Orderly) (own : session.label = label)
    (found : site.relay.roster.find? session.id = some session) (parting : Parting) :
    Alike label (site.closeSession session.id parting) site := by
  have name := orderly.name found
  rw [own] at name
  let removed : Site := { site with relay.roster := (site.relay.roster.remove session.id).2 }
  have left : Alike label removed site := by
    apply (Alike.refl label site).putBack _ (.refl label _)
    change others label (site.relay.roster.remove session.id).2.sessions = _
    rw [Roster.remove_sessions orderly.ordered]
    exact others_without_own (orderly.label_eq name)
  unfold closeSession
  simp only [Roster.remove, found]
  exact (retire_besides removed own name parting).trans left

theorem overLine_besides (orderly : site.Orderly) (own : session.label = label)
    (found : site.relay.roster.find? session.id = some session) {line : Line}
    (sends : Line.Sends (site.kernel.line session) line) :
    Alike label (site.overLine line) site := by
  have name := orderly.name found
  rw [own] at name
  apply (Alike.refl label site).putBack _
    (Kernel.Alike.overLine_own (sends.label.trans own) (sends.besides own))
  apply others_update_own (sends.label.trans own)
  rw [sends.id]
  exact orderly.label_eq name

theorem overCircuit_besides (orderly : site.Orderly) (own : session.label = label)
    (found : site.relay.roster.find? session.id = some session) (name : String)
    (size budget : Nat) :
    Alike label (site.overCircuit ((site.kernel.circuit session).read name size budget).2)
      site := by
  have receives := Circuit.read_receives name size budget (site.kernel.circuit session)
  have tunnel := Circuit.read_tunnel name size budget (site.kernel.circuit session)
  have record := Circuit.read_besides name size budget (site.kernel.circuit session) own
  have idName := orderly.name found
  rw [own] at idName
  apply (Alike.refl label site).putBack
  · apply others_update_own (receives.label.trans own)
    rw [receives.id]
    exact orderly.label_eq idName
  · exact (Kernel.Alike.overLine_own (receives.label.trans own) record).overTunnel tunnel

theorem readClient_besides (orderly : site.Orderly) (own : session.label = label)
    (found : site.relay.roster.find? session.id = some session) (flags : Flags) :
    Alike label (site.readClient session flags).2 site := by
  unfold readClient
  split
  · split
    · exact .refl label site
    · next name present =>
        have receives := Circuit.read_receives name Tunnel.maxPacketSize site.relay.readBudget
          (site.kernel.circuit session)
        have ended := overCircuit_besides orderly own found name Tunnel.maxPacketSize
          site.relay.readBudget
        have kept := orderly.overCircuit found receives
        split
        · next errno circuit failed =>
            rw [failed] at ended
            exact ended
        · next parting circuit served =>
            rw [served] at ended kept receives
            have closed := closeSession_besides kept (receives.label.trans own)
              (Roster.find?_update_self (receives.id ▸ found)) parting
            rw [receives.id] at closed
            exact closed.trans ended
        · next disposition circuit _ served =>
            rw [served] at ended
            exact ended
  · split
    · exact closeSession_besides orderly own found .hangUp
    · exact .refl label site

theorem serveClient_besides (orderly : site.Orderly) {id : Nat}
    (name : named site.calls id = some label) (flags : Flags) :
    Alike label (site.serveClient id flags).2 site := by
  unfold serveClient
  split
  · exact .refl label site
  · next session found =>
      have own := orderly.label_eq name session (Roster.mem_of_find? found).1
        (Roster.mem_of_find? found).2
      obtain ⟨_, rfl⟩ := Roster.mem_of_find? found
      split
      · have sends := Line.flush_sends (site.kernel.line session)
        have ended := overLine_besides orderly own found sends
        have kept := orderly.overLine found sends
        have still := Roster.find?_update_self (sends.id ▸ found)
        split
        · next parting line broke =>
            rw [broke] at ended kept sends still
            have closed := closeSession_besides kept (sends.label.trans own) still parting
            rw [sends.id] at closed
            exact closed.trans ended
        · next line flushed =>
            rw [flushed] at ended kept sends still
            exact (readClient_besides kept (sends.label.trans own) still flags).trans ended
      · exact readClient_besides orderly own found flags

end

/-! For another client the same is done in both. -/

section

theorem found_alike (alike : Alike label one two) (orderly : one.Orderly)
    (alsoOrderly : two.Orderly) {id client : Nat} (name : named one.calls id = some client)
    (different : client ≠ label) :
    (one.relay.roster.find? id).map Session.bare =
      (two.relay.roster.find? id).map Session.bare := by
  have alsoName : named two.calls id = some client :=
    (alike.kernel.record.named id).symm.trans name
  have first := find?_others fun session member same =>
    (orderly.label_eq name session member same).symm ▸ different
  have second := find?_others fun session member same =>
    (alsoOrderly.label_eq alsoName session member same).symm ▸ different
  unfold Roster.find?
  rw [← first, ← second, alike.others]

/-- Sessions that are found in both runs, of a client other than the one in question. -/
structure Met (label : Nat) (one two : Site) (session other : Session) : Prop where
  different : session.label ≠ label
  bare : session.bare = other.bare
  found : one.relay.roster.find? session.id = some session
  alsoFound : two.relay.roster.find? other.id = some other

theorem Met.id_eq (met : Met label one two session other) : session.id = other.id := by
  obtain ⟨n, rfl⟩ := Session.eq_of_bare met.bare
  rfl

theorem closeSession_alike (alike : Alike label one two) (orderly : one.Orderly)
    (alsoOrderly : two.Orderly) (met : Met label one two session other) (parting : Parting) :
    Alike label (one.closeSession session.id parting) (two.closeSession other.id parting) := by
  have left : Alike label
      { one with relay.roster := (one.relay.roster.remove session.id).2 }
      { two with relay.roster := (two.relay.roster.remove other.id).2 } := by
    apply alike.putBack _ alike.kernel
    change others label (one.relay.roster.remove session.id).2.sessions =
      others label (two.relay.roster.remove other.id).2.sessions
    rw [Roster.remove_sessions orderly.ordered, Roster.remove_sessions alsoOrderly.ordered,
      others_without, others_without, alike.others, met.id_eq]
  unfold closeSession
  simp only [Roster.remove, met.found, met.alsoFound]
  exact retire_alike left met.bare parting

theorem update_alike (alike : Alike label one two) (orderly : one.Orderly)
    (alsoOrderly : two.Orderly) (met : Met label one two session other)
    {left right : Session} (same : left.bare = right.bare) (id : left.id = session.id)
    (own : left.label = session.label) {kernel alsoKernel : Kernel}
    (kernels : kernel.Alike label alsoKernel) :
    Alike label ⟨{ one.relay with roster := one.relay.roster.update left }, kernel⟩
      ⟨{ two.relay with roster := two.relay.roster.update right }, alsoKernel⟩ := by
  obtain ⟨n, changed⟩ := Session.eq_of_bare same
  have sameId : right.id = left.id := by rw [changed]
  have sameLabel : right.label = left.label := by rw [changed]
  have name : named one.calls left.id = some session.label := id ▸ orderly.name met.found
  have alsoName : named two.calls right.id = some session.label := by
    rw [sameId]
    exact (alike.kernel.record.named _).symm.trans name
  apply alike.putBack _ kernels
  rw [others_update (own ▸ met.different) fun old member same =>
      (orderly.label_eq name old member same).symm ▸ met.different,
    others_update (sameLabel.trans own ▸ met.different) fun old member same =>
      (alsoOrderly.label_eq alsoName old member same).symm ▸ met.different,
    alike.others, same, sameId]

theorem overLine_alike (alike : Alike label one two) (orderly : one.Orderly)
    (alsoOrderly : two.Orderly) (met : Met label one two session other) {left right : Line}
    (lines : left.Alike label right) (sends : Line.Sends (one.kernel.line session) left)
    (alsoSends : Line.Sends (two.kernel.line other) right) :
    Alike label (one.overLine left) (two.overLine right) ∧
      Met label (one.overLine left) (two.overLine right) left.session right.session := by
  constructor
  · exact update_alike alike orderly alsoOrderly met lines.session sends.id sends.label
      (alike.kernel.overLine lines)
  · exact ⟨sends.label.symm ▸ met.different, lines.session,
      Roster.find?_update_self (sends.id ▸ met.found),
      Roster.find?_update_self (alsoSends.id ▸ met.alsoFound)⟩

theorem overCircuit_alike (alike : Alike label one two) (orderly : one.Orderly)
    (alsoOrderly : two.Orderly) (met : Met label one two session other) {left right : Circuit}
    (lines : left.toLine.Alike label right.toLine)
    (tunnel : left.tunnel.Alike one.kernel.tunnel)
    (alsoTunnel : right.tunnel.Alike two.kernel.tunnel)
    (receives : Circuit.Receives (one.kernel.circuit session) left)
    (alsoReceives : Circuit.Receives (two.kernel.circuit other) right) :
    Alike label (one.overCircuit left) (two.overCircuit right) ∧
      Met label (one.overCircuit left) (two.overCircuit right) left.session right.session := by
  constructor
  · exact update_alike alike orderly alsoOrderly met lines.session receives.id receives.label
      ((alike.kernel.overLine lines).overTunnel
        (tunnel.trans (alike.kernel.tunnel.trans alsoTunnel.symm)))
  · exact ⟨receives.label.symm ▸ met.different, lines.session,
      Roster.find?_update_self (receives.id ▸ met.found),
      Roster.find?_update_self (alsoReceives.id ▸ met.alsoFound)⟩

theorem read_alike (alike : Alike label one two) (orderly : one.Orderly)
    (alsoOrderly : two.Orderly) (met : Met label one two session other) {name : String}
    {size budget : Nat} {disposition also : Disposition} {left right : Circuit}
    (served : (one.kernel.circuit session).read name size budget = (.ok disposition, left))
    (alsoServed : (two.kernel.circuit other).read name size budget = (.ok also, right)) :
    disposition = also ∧ Alike label (one.overCircuit left) (two.overCircuit right) ∧
      Met label (one.overCircuit left) (two.overCircuit right) left.session right.session := by
  have lines : (one.kernel.circuit session).toLine.Alike label (two.kernel.circuit other).toLine :=
    alike.kernel.line met.bare met.different
  have receives := Circuit.read_receives name size budget (one.kernel.circuit session)
  have alsoReceives := Circuit.read_receives name size budget (two.kernel.circuit other)
  have tunnel := Circuit.read_tunnel name size budget (one.kernel.circuit session)
  have alsoTunnel := Circuit.read_tunnel name size budget (two.kernel.circuit other)
  obtain ⟨same, after⟩ := Circuit.read_alike name size budget lines
    (by rw [served]) (by rw [alsoServed])
  rw [served] at receives tunnel after
  rw [alsoServed] at alsoReceives alsoTunnel after
  exact ⟨same, overCircuit_alike alike orderly alsoOrderly met after tunnel alsoTunnel receives
    alsoReceives⟩

theorem readClient_alike (alike : Alike label one two) (orderly : one.Orderly)
    (alsoOrderly : two.Orderly) (met : Met label one two session other) (flags : Flags)
    (passed : (one.readClient session flags).1 = .ok ())
    (alsoPassed : (two.readClient other flags).1 = .ok ()) :
    Alike label (one.readClient session flags).2 (two.readClient other flags).2 := by
  unfold readClient at passed alsoPassed ⊢
  rw [← alike.tunnel, ← alike.readBudget] at alsoPassed ⊢
  by_cases readable : flags.readable = true
  · simp only [if_pos readable] at passed alsoPassed ⊢
    cases present : one.relay.tunnel with
    | none => exact alike
    | some name =>
        simp only [present] at passed alsoPassed ⊢
        cases served : (one.kernel.circuit session).read name Tunnel.maxPacketSize
            one.relay.readBudget with
        | mk result left =>
        cases alsoServed : (two.kernel.circuit other).read name Tunnel.maxPacketSize
            one.relay.readBudget with
        | mk alsoResult right =>
            have receives := Circuit.Receives.of_read served
            have alsoReceives := Circuit.Receives.of_read alsoServed
            rw [served] at passed
            rw [alsoServed] at alsoPassed
            cases result with
            | error errno => cases passed
            | ok disposition =>
                cases alsoResult with
                | error errno => cases alsoPassed
                | ok also =>
                    -- Both servings end alike, so the session is closed in both runs or in neither.
                    obtain ⟨rfl, after, still⟩ :=
                      read_alike alike orderly alsoOrderly met served alsoServed
                    cases disposition with
                    | closed parting =>
                        have closed := closeSession_alike after
                          (orderly.overCircuit met.found receives)
                          (alsoOrderly.overCircuit met.alsoFound alsoReceives) still parting
                        rw [receives.id, alsoReceives.id] at closed
                        exact closed
                    | unfinished | idle => exact after
  · simp only [if_neg readable] at passed alsoPassed ⊢
    split
    · exact closeSession_alike alike orderly alsoOrderly met .hangUp
    · exact alike

theorem serveClient_alike (alike : Alike label one two) (orderly : one.Orderly)
    (alsoOrderly : two.Orderly) {id client : Nat} (name : named one.calls id = some client)
    (different : client ≠ label) (flags : Flags)
    (passed : (one.serveClient id flags).1 = .ok ())
    (alsoPassed : (two.serveClient id flags).1 = .ok ()) :
    Alike label (one.serveClient id flags).2 (two.serveClient id flags).2 := by
  have same := found_alike alike orderly alsoOrderly name different
  unfold serveClient at passed alsoPassed ⊢
  cases found : one.relay.roster.find? id with
  | none =>
      rw [found] at same
      simp only [Option.map_eq_none_iff.mp same.symm]
      exact alike
  | some session =>
      rw [found] at same
      obtain ⟨other, alsoFound, bare⟩ := Option.map_eq_some_iff.mp same.symm
      simp only [found, alsoFound] at passed alsoPassed ⊢
      have own : session.label = client :=
        Option.some.inj ((orderly.name found).symm.trans name)
      obtain ⟨_, rfl⟩ := Roster.mem_of_find? found
      have met : Met label one two session other := by
        refine ⟨own ▸ different, bare.symm, found, ?_⟩
        rw [(Roster.mem_of_find? alsoFound).2]
        exact alsoFound
      by_cases writable : flags.writable = true
      · simp only [if_pos writable] at passed alsoPassed ⊢
        have flushed := Line.flush_agree (alike.kernel.line met.bare met.different)
        have sends := Line.flush_sends (one.kernel.line session)
        have alsoSends := Line.flush_sends (two.kernel.line other)
        obtain ⟨after, still⟩ := overLine_alike alike orderly alsoOrderly met flushed.after sends
          alsoSends
        have kept := orderly.overLine met.found sends
        have alsoKept := alsoOrderly.overLine met.alsoFound alsoSends
        have sendsId : ((one.kernel.line session).flush).2.session.id = session.id := sends.id
        have alsoSendsId : ((two.kernel.line other).flush).2.session.id = session.id :=
          alsoSends.id.trans met.id_eq.symm
        -- Both flushes come to the same, so they are taken apart together.
        have result := flushed.result
        generalize (one.kernel.line session).flush = first
          at passed after still kept result sendsId ⊢
        generalize (two.kernel.line other).flush = second
          at alsoPassed after still alsoKept result alsoSendsId ⊢
        obtain ⟨outcome, line⟩ := first
        obtain ⟨alsoOutcome, alsoLine⟩ := second
        cases result
        cases outcome with
        | error parting =>
            have closed := closeSession_alike after kept alsoKept still parting
            rw [sendsId, alsoSendsId] at closed
            exact closed
        | ok value => exact readClient_alike after kept alsoKept still flags passed alsoPassed
      · simp only [if_neg writable] at passed alsoPassed ⊢
        exact readClient_alike alike orderly alsoOrderly met flags passed alsoPassed

end

end Site
end PacketRelay
