import PacketRelay.Proofs.Sound

/-!
The sites a relay comes to after it has been opened: by its moves and the
world's, in any order, and by running in the midst of the world. Main statement:
what every turn, every failure and every deed keeps holds of all of them.
-/

namespace PacketRelay

open Kernel (Deed)

structure Interlude where
  deeds : List Deed := []
  stop : Option Bool := none

namespace Site

def flag (stop : Bool) (site : Site) : Site :=
  { site with relay.stopRequested := stop }

def begin (site : Site) : Site :=
  { site with relay.running := true }.note .running

def amid (interlude : Interlude) (site : Site) : Site :=
  let met := interlude.deeds.foldl (fun site deed => site.undergo deed) site
  match interlude.stop with
  | none => met
  | some stop => met.flag stop

/-- The sites a relay comes to, whatever it and the world do. -/
inductive Reachable : Site → Prop
  | opened {site : Site} (opened : site.Opened) : Reachable site
  | moved {site : Site} (reachable : Reachable site) (made : Move) : Reachable (site.move made).2
  | flagged {site : Site} (reachable : Reachable site) (stop : Bool) : Reachable (site.flag stop)
  | begun {site : Site} (reachable : Reachable site) : Reachable site.begin
  | reported {site : Site} (reachable : Reachable site) (failure : Failure) :
      Reachable (site.note (.fatal failure))

/-- The passes of a run that comes to an end. The world acts before the stop
flag is looked at, and again before the poll. -/
inductive Passes : Site → Except Failure Unit → Site → Prop
  | met {site last : Site} {result : Except Failure Unit} (interlude : Interlude)
      (later : Passes (site.amid interlude) result last) : Passes site result last
  | stopped {site : Site} (requested : site.relay.stopRequested = true) : Passes site (.ok ()) site
  | failed {site after : Site} {failure : Failure} (going : site.relay.stopRequested = false)
      (interlude : Interlude) (failed : (site.amid interlude).pass = (.error failure, after)) :
      Passes site (.error failure) (after.note (.fatal failure))
  | passed {site after last : Site} {result : Except Failure Unit}
      (going : site.relay.stopRequested = false) (interlude : Interlude)
      (passed : (site.amid interlude).pass = (.ok (), after)) (later : Passes after result last) :
      Passes site result last

def Runs (site : Site) (result : Except Failure Unit) (last : Site) : Prop :=
  ∃ before, Passes site.begin result before ∧ last = before.shutdown

/-! ## Running by itself -/

theorem passes_passes (polls : Nat) (site : Site) :
    Passes site (site.passes polls).1 (site.passes polls).2 := by
  induction polls generalizing site with
  | zero => exact .met { stop := some true } (.stopped rfl)
  | succ polls ih =>
      -- The stop that comes during the last poll is there before that poll reports.
      let interlude : Interlude := { stop := if polls = 0 then some true else none }
      have met : (if polls = 0 then site.requestStop else site) = site.amid interlude := by
        by_cases last : polls = 0 <;> simp [interlude, last, amid, requestStop, flag]
      unfold passes
      split
      · next requested => exact .stopped requested
      · next going =>
          rw [met]
          split
          · next failure after failed => exact .failed (by simpa using going) interlude failed
          · next after passed => exact .passed (by simpa using going) interlude passed (ih after)

/-- A run whose stop comes during a given poll is one of the runs that come to an end. -/
theorem run_runs (polls : Nat) (site : Site) :
    site.Runs (site.run polls).1 (site.run polls).2 :=
  ⟨_, passes_passes polls site.begin, rfl⟩

/-! ## What holds of all sites that are reached -/

namespace Reachable

variable {site last : Site} {result : Except Failure Unit}

theorem met (reachable : site.Reachable) (interlude : Interlude) :
    (site.amid interlude).Reachable := by
  have undergone : ∀ deeds : List Deed,
      (deeds.foldl (fun site deed => site.undergo deed) site).Reachable := by
    intro deeds
    induction deeds generalizing site with
    | nil => exact reachable
    | cons deed later ih => exact ih (reachable.moved (.world deed))
  unfold amid
  cases interlude.stop with
  | none => exact undergone interlude.deeds
  | some stop => exact (undergone interlude.deeds).flagged stop

theorem play (reachable : site.Reachable) (moves : List Move) : (site.play moves).Reachable := by
  induction moves generalizing site with
  | nil => exact reachable
  | cons made rest ih => exact ih (reachable.moved made)

theorem pass (reachable : site.Reachable) : site.pass.2.Reachable :=
  reachable.moved .pass

theorem shutdown (reachable : site.Reachable) : site.shutdown.Reachable :=
  reachable.moved .shutdown

theorem passes (reachable : site.Reachable) (passes : Passes site result last) :
    last.Reachable := by
  induction passes with
  | met interlude _ ih => exact ih (reachable.met interlude)
  | stopped => exact reachable
  | failed going interlude failed =>
      have after := (reachable.met interlude).pass
      rw [failed] at after
      exact after.reported _
  | passed going interlude passed _ ih =>
      have after := (reachable.met interlude).pass
      rw [passed] at after
      exact ih after

end Reachable

/-- A property that every step of a relay and of the world keeps. -/
structure Lasting (holds : Stage → Prop) : Prop extends Kept holds where
  opened : ∀ site : Site, site.Opened → holds (.rest site)
  failing : ∀ site failure after, Fatal site failure after → Stage.Sound (.rest site) →
    holds (.rest site) → holds (.rest after)
  flagged : ∀ (site : Site) stop, holds (.rest site) → holds (.rest (site.flag stop))

theorem sound_flag {site : Site} (stop : Bool) (sound : Stage.Sound (.rest site)) :
    Stage.Sound (.rest (site.flag stop)) where
  ordered := sound.ordered
  numbered := by
    obtain ⟨frontier, numbered⟩ := sound.numbered
    exact ⟨frontier, numbered.same rfl rfl rfl rfl⟩
  apart := List.nodup_nil
  connected := sound.connected

theorem Reachable.lasting {holds : Stage → Prop} (lasting : Lasting holds) {site : Site}
    (reachable : site.Reachable) : Stage.Sound (.rest site) ∧ holds (.rest site) := by
  have stepped {site next : Site} (start : Stage.Sound (.rest site) ∧ holds (.rest site))
      (step : Turn (.rest site) (.rest next)) : Stage.Sound (.rest next) ∧ holds (.rest next) :=
    ⟨step.sound _ _ start.1, lasting.turn _ _ step start.1 start.2⟩
  induction reachable with
  | opened opened => exact ⟨opened.sound, lasting.opened _ opened⟩
  | moved _ made ih => exact move_kept lasting.toKept made (.inr lasting.failing) ih
  | flagged _ stop ih => exact ⟨sound_flag stop ih.1, lasting.flagged _ stop ih.2⟩
  | @begun site _ ih => exact stepped (stepped ih (.marked site true)) (.noted _ .running rfl)
  | reported _ failure ih => exact stepped ih (.noted _ (.fatal failure) rfl)

theorem Reachable.sound {site : Site} (reachable : site.Reachable) : Stage.Sound (.rest site) :=
  (reachable.lasting ⟨sound_kept, fun _ opened => opened.sound,
    fun _ _ _ fatal sound _ => fatal.sound _ _ _ sound, fun _ stop sound =>
      sound_flag stop sound⟩).1

end Site
end PacketRelay
