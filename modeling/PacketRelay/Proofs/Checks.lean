import PacketRelay.Failure

/-!
The checks of settings, told as one list. Main statement: settings are accepted exactly
if they pass all of them, and else the first that they fail is what is reported.
-/

namespace PacketRelay.Settings

/-- The checks in their order, each with the fault that is reported if it fails. -/
def checks (settings : Settings) : List (Prop × Fault) :=
  [(1 ≤ settings.tunnelName.utf8ByteSize ∧ settings.tunnelName.utf8ByteSize ≤ 15,
      .tunnelName settings.tunnelName),
    (settings.socketPath ≠ "", .noSocketPath),
    (settings.socketMode ≤ 0o7777, .socketMode settings.socketMode),
    (1 ≤ settings.pollTimeout ∧ settings.pollTimeout ≤ 1000, .pollTimeout),
    (1 ≤ settings.readBudget, .readBudget)]

def Valid (settings : Settings) : Prop :=
  ∀ check ∈ settings.checks, check.1

inductive Fails : List (Prop × Fault) → Fault → Prop
  | here {check : Prop} {fault : Fault} {later : List (Prop × Fault)} (wrong : ¬ check) :
      Fails ((check, fault) :: later) fault
  | later {check : Prop} {other fault : Fault} {later : List (Prop × Fault)} (passed : check)
      (fails : Fails later fault) : Fails ((check, other) :: later) fault

theorem Fails.not_passed {checks : List (Prop × Fault)} {fault : Fault}
    (fails : Fails checks fault) : ¬ ∀ check ∈ checks, check.1 := by
  intro passed
  induction fails with
  | here wrong => exact wrong (passed _ List.mem_cons_self)
  | later _ _ ih => exact ih fun check member => passed check (List.mem_cons_of_mem _ member)

theorem Fails.unique {checks : List (Prop × Fault)} {fault other : Fault}
    (fails : Fails checks fault) (also : Fails checks other) : fault = other := by
  induction fails with
  | here wrong =>
      cases also with
      | here => rfl
      | later passed => exact absurd passed wrong
  | later passed _ ih =>
      cases also with
      | here wrong => exact absurd passed wrong
      | later _ also => exact ih also

/-- The checks are passed, or the first that is not is reported. -/
theorem check_cases (settings : Settings) :
    settings.check = .ok () ∧ Valid settings ∨
      ∃ fault, settings.check = .error fault ∧ Fails settings.checks fault := by
  have named : settings.tunnelName = "" ↔ settings.tunnelName.utf8ByteSize = 0 :=
    String.utf8ByteSize_eq_zero_iff.symm
  have limits : maxNameBytes = 15 ∧ maxMode = 4095 ∧ maxPollTimeout = 1000 := ⟨rfl, rfl, rfl⟩
  generalize checked : settings.check = outcome
  unfold check at checked
  split at checked
  · next wrong =>
      rw [named] at wrong
      exact .inr ⟨_, checked.symm, .here (by omega)⟩
  next name =>
  rw [named] at name
  replace name : 1 ≤ settings.tunnelName.utf8ByteSize ∧ settings.tunnelName.utf8ByteSize ≤ 15 := by
    omega
  split at checked
  · next wrong => exact .inr ⟨_, checked.symm, .later name (.here (not_not_intro wrong))⟩
  next path =>
  split at checked
  · next wrong => exact .inr ⟨_, checked.symm, .later name (.later path (.here (by omega)))⟩
  next mode =>
  replace mode : settings.socketMode ≤ 0o7777 := by omega
  split at checked
  · next wrong =>
      exact .inr ⟨_, checked.symm, .later name (.later path (.later mode (.here (by omega))))⟩
  next timeout =>
  replace timeout : 1 ≤ settings.pollTimeout ∧ settings.pollTimeout ≤ 1000 := by omega
  split at checked
  · next wrong =>
      refine .inr ⟨_, checked.symm, .later name (.later path (.later mode (.later timeout ?_)))⟩
      exact .here (by omega)
  next budget =>
  refine .inl ⟨checked.symm, ?_⟩
  simp only [Valid, checks, List.forall_mem_cons, List.not_mem_nil, false_imp_iff, implies_true,
    and_true]
  exact ⟨name, path, mode, timeout, by omega⟩

theorem valid_or_fails (settings : Settings) :
    Valid settings ∨ ∃ fault, Fails settings.checks fault := by
  rcases settings.check_cases with ⟨_, valid⟩ | ⟨fault, _, fails⟩
  · exact .inl valid
  · exact .inr ⟨fault, fails⟩

theorem check_ok_iff (settings : Settings) : settings.check = .ok () ↔ Valid settings := by
  rcases settings.check_cases with ⟨passed, valid⟩ | ⟨fault, refused, fails⟩
  · simp [passed, valid]
  · have invalid : ¬ Valid settings := fails.not_passed
    simp [refused, invalid]

theorem check_error_iff (settings : Settings) (fault : Fault) :
    settings.check = .error fault ↔ Fails settings.checks fault := by
  rcases settings.check_cases with ⟨passed, valid⟩ | ⟨first, refused, fails⟩
  · have noFault : ¬ Fails settings.checks fault := fun fails => fails.not_passed valid
    simp [passed, noFault]
  · rw [refused, Except.error.injEq]
    constructor
    · rintro rfl
      exact fails
    · exact fails.unique

def checked (settings : Settings) : Except Failure Settings :=
  (settings.check.mapError .settings).map fun () => settings

theorem checked_valid {settings : Settings} (valid : Valid settings) :
    settings.checked = .ok settings := by
  rw [checked, (check_ok_iff settings).mpr valid]
  rfl

theorem checked_fails {settings : Settings} {fault : Fault} (fails : Fails settings.checks fault) :
    settings.checked = .error (.settings fault) := by
  rw [checked, (check_error_iff settings fault).mpr fails]
  rfl

end PacketRelay.Settings
