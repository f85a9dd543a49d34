import PacketRelay.Proofs.Rounds

/-!
Clients are isolated from each other. Main statement: take two runs in which no
pass fails and which differ only in what one client sends, takes and has
reported on its stream. Then at every step nothing that the others see differs,
except whether the tunnel took their packets.
-/

namespace PacketRelay

open Kernel (Call Endpoint Supply Deed Descriptor)
open History (taken got offered named enrolled partings)

/-- Moves that are the same, or supply one client with anything. -/
inductive Move.Besides (label : Nat) : Move → Move → Prop
  | same (made : Move) : Besides label made made
  | supplied (one other : Supply) :
      Besides label (.world (.supplyClient label one)) (.world (.supplyClient label other))

def Kernel.Call.isAccept : Call → Bool
  | .accept _ => true
  | _ => false

def Kernel.Call.isTunnelRead : Call → Bool
  | .read .tunnel .. => true
  | _ => false

namespace Site

def withClient (label : Nat) (endpoint : Endpoint) (site : Site) : Site :=
  { site with kernel := site.kernel.setClient label endpoint }

/-- No one but the client can tell the sites apart by what was done so far. -/
structure Undisturbed (label : Nat) (one two : Site) : Prop where
  taken : ∀ other ≠ label, taken other one.calls = taken other two.calls
  got : ∀ other ≠ label, got other one.calls = got other two.calls
  offered : ∀ other ≠ label, offered other one.calls = offered other two.calls
  calls : ∀ other ≠ label, one.calls.filter (·.client? = some other) =
    two.calls.filter (·.client? = some other)
  partings : ∀ id, named one.calls id ≠ some label →
    partings id one.kernel.record.notices = partings id two.kernel.record.notices
  accepted : one.calls.filter Call.isAccept = two.calls.filter Call.isAccept
  enrolled : enrolled one.calls = enrolled two.calls
  packets : one.calls.filter Call.isTunnelRead = two.calls.filter Call.isTunnelRead
  streams : ∀ other ≠ label, one.kernel.client other = two.kernel.client other
  sessions : others label one.relay.roster.sessions = others label two.relay.roster.sessions

variable {label : Nat} {one two : Site}

theorem Alike.undisturbed (alike : Alike label one two) : Undisturbed label one two where
  taken other different := by
    rw [← History.taken_besides different one.calls, ← History.taken_besides different two.calls]
    exact congrArg _ alike.kernel.record.calls
  got other different := by
    rw [← History.got_besides different one.calls, ← History.got_besides different two.calls]
    exact congrArg _ alike.kernel.record.calls
  offered := alike.kernel.record.offered
  calls other different := by
    have blind : ∀ call : Call, call.swayedBy label = true →
        decide (call.client? = some other) = false :=
      fun call swayed => decide_eq_false (History.swayed_client swayed different)
    rw [← History.filter_besides blind one.calls, ← History.filter_besides blind two.calls]
    exact congrArg _ alike.kernel.record.calls
  partings := alike.kernel.record.partings
  accepted := by
    have blind : ∀ call : Call, call.swayedBy label = true → call.isAccept = false := by
      intro call swayed
      cases call <;> first | rfl | cases swayed
    rw [← History.filter_besides blind one.calls, ← History.filter_besides blind two.calls]
    exact congrArg _ alike.kernel.record.calls
  enrolled := alike.kernel.record.enrolled
  packets := by
    have blind : ∀ call : Call, call.swayedBy label = true → call.isTunnelRead = false := by
      intro call swayed
      cases call with
      | read descriptor size result =>
          rw [of_decide_eq_true swayed]
          rfl
      | _ => rfl
    rw [← History.filter_besides blind one.calls, ← History.filter_besides blind two.calls]
    exact congrArg _ alike.kernel.record.calls
  streams := alike.kernel.clients
  sessions := alike.others

/-! ## Deeds of the world -/

theorem supplied_alike (supply other : Supply) (alike : Alike label one two) :
    Alike label (one.undergo (.supplyClient label supply))
      (two.undergo (.supplyClient label other)) :=
  alike.withKernel ((Kernel.Alike.own _ label _).trans
    (alike.kernel.trans (Kernel.Alike.own _ label _).symm))

theorem undergo_alike (deed : Deed) (alike : Alike label one two) :
    Alike label (one.undergo deed) (two.undergo deed) := by
  have kernels := alike.kernel
  -- What the client itself is supplied with in both runs need not even be the same.
  by_cases own : ∃ supply, deed = .supplyClient label supply
  · obtain ⟨supply, rfl⟩ := own
    exact supplied_alike supply supply alike
  apply alike.withKernel
  cases deed with
  | connect | refuse | forceChannel | failPoll | failResize | denyRemoval | changeFiles =>
      exact kernels.change (Kernel.undergo _) (fun _ => rfl) (fun _ => rfl) (fun _ => rfl)
        fun _ => rfl
  | supplyTunnel supply =>
      refine kernels.overTunnel ⟨?_, ?_⟩
      · exact congrArg (· ++ supply.inbound) kernels.tunnel.inbound
      · exact congrArg supply.forced.or kernels.tunnel.forced
  | supplyClient client supply =>
      have different : client ≠ label := fun same => own ⟨supply, by rw [same]⟩
      unfold Kernel.undergo
      dsimp only
      rw [kernels.clients client different]
      exact kernels.setClient client _

/-! ## Whole runs -/

theorem move_alike {made also : Move} (besides : made.Besides label also)
    (alike : Alike label one two) (sound : Stage.Sound (.rest one))
    (alsoSound : Stage.Sound (.rest two)) (passed : (one.move made).1 = .ok ())
    (alsoPassed : (two.move also).1 = .ok ()) :
    Alike label (one.move made).2 (two.move also).2 := by
  cases besides with
  | supplied supply other => exact supplied_alike supply other alike
  | same made =>
      cases made with
      | world deed => exact undergo_alike deed alike
      | pass => exact pass_alike alike sound alsoSound passed alsoPassed
      | shutdown => exact shutdown_alike alike

theorem play_alike (moves : List (Move × Move))
    (besides : ∀ made ∈ moves, made.1.Besides label made.2) (alike : Alike label one two)
    (sound : Stage.Sound (.rest one)) (alsoSound : Stage.Sound (.rest two))
    (unfailing : one.unfailing (moves.map (·.1)) = true)
    (alsoUnfailing : two.unfailing (moves.map (·.2)) = true) :
    Alike label (one.play (moves.map (·.1))) (two.play (moves.map (·.2))) := by
  induction moves generalizing one two with
  | nil => exact alike
  | cons made rest ih =>
      simp only [List.map_cons, Site.unfailing, Bool.and_eq_true] at unfailing alsoUnfailing
      obtain ⟨passed, later⟩ := unfailing
      obtain ⟨alsoPassed, alsoLater⟩ := alsoUnfailing
      have moved := move_alike (besides made List.mem_cons_self) alike sound alsoSound
        (isOk_ok passed) (isOk_ok alsoPassed)
      exact ih (fun other member => besides other (List.mem_cons_of_mem made member)) moved
        (move_sound made.1 sound) (move_sound made.2 alsoSound) later alsoLater

theorem unfailing_take (moves : List Move) (steps : Nat) (site : Site)
    (unfailing : site.unfailing moves = true) : site.unfailing (moves.take steps) = true := by
  induction moves generalizing site steps with
  | nil => simpa using unfailing
  | cons made rest ih =>
      cases steps with
      | zero => rfl
      | succ steps =>
          simp only [List.take_succ_cons, Site.unfailing, Bool.and_eq_true] at unfailing ⊢
          exact ⟨unfailing.1, ih steps _ unfailing.2⟩

theorem Opened.withClient {site : Site} (opened : site.Opened) (label : Nat)
    (endpoint : Endpoint) : (site.withClient label endpoint).Opened :=
  { knocks := opened.knocks, calls := opened.calls, notices := opened.notices
    relay := opened.relay }

/-- Two runs from the opening on, whose scripts differ only in what is said of one
client's stream, and in which no pass fails. At every step all other clients have
been served in the same way, and all of them, with their ids, are the same. -/
theorem isolation (site : Site) (opened : site.Opened) (label : Nat) (endpoint : Endpoint)
    (moves : List (Move × Move)) (besides : ∀ made ∈ moves, made.1.Besides label made.2)
    (unfailing : site.unfailing (moves.map (·.1)) = true)
    (alsoUnfailing : (site.withClient label endpoint).unfailing (moves.map (·.2)) = true)
    (steps : Nat) :
    Undisturbed label (site.play ((moves.take steps).map (·.1)))
      ((site.withClient label endpoint).play ((moves.take steps).map (·.2))) := by
  have alike : Alike label site (site.withClient label endpoint) :=
    (Alike.refl label site).withKernel (Kernel.Alike.own site.kernel label endpoint).symm
  apply Alike.undisturbed
  apply play_alike (moves.take steps) _ alike opened.sound (opened.withClient label endpoint).sound
  · rw [List.map_take]
    exact unfailing_take _ steps site unfailing
  · rw [List.map_take]
    exact unfailing_take _ steps _ alsoUnfailing
  · exact fun made member => besides made (List.mem_of_mem_take member)

/-- A client breaks the protocol in one run and is silent in the other. A packet
from the second client and one for it pass in both. -/
theorem isolation_from_violation :
    let site := fresh {}
    let both (made : Move) : Move × Move := (made, made)
    let moves : List (Move × Move) := [both (.world (.connect 2 none)), both .pass,
      (.world (.supplyClient 1 { inbound := [.data [0, 0, 0, 0]] }),
        .world (.supplyClient 1 {})),
      both (.world (.supplyClient 2 { inbound := [.data [0, 0, 0, 1, 9]] })), both .pass,
      both (.world (.supplyTunnel { inbound := [.data [7]] })), both .pass]
    let first := site.play (moves.map (·.1))
    let second := (site.withClient 1 {}).play (moves.map (·.2))
    (site.Opened ∧ site.unfailing (moves.map (·.1)) = true ∧
      (site.withClient 1 {}).unfailing (moves.map (·.2)) = true ∧
      first.relay.roster.size = 1 ∧ second.relay.roster.size = 2 ∧
      offered 2 first.calls = [[9]] ∧ taken 2 second.calls = [0, 0, 0, 1, 7]) ∧
      ∀ steps, Undisturbed 1 (site.play ((moves.take steps).map (·.1)))
        ((site.withClient 1 {}).play ((moves.take steps).map (·.2))) := by
  intro site both moves first second
  have besides : ∀ made ∈ moves, made.1.Besides 1 made.2 := by
    simp only [moves, both, List.forall_mem_cons]
    exact ⟨.same _, .same _, .supplied _ _, .same _, .same _, .same _, .same _, by simp⟩
  have unfailing : site.unfailing (moves.map (·.1)) = true := by decide +kernel
  have alsoUnfailing : (site.withClient 1 {}).unfailing (moves.map (·.2)) = true := by
    decide +kernel
  refine ⟨⟨fresh_opened {}, unfailing, alsoUnfailing, ?_⟩, ?_⟩
  · decide +kernel
  · exact isolation site (fresh_opened {}) 1 {} moves besides unfailing alsoUnfailing

end Site
end PacketRelay
