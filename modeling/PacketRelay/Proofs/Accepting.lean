import PacketRelay.Channel
import PacketRelay.Proofs.History
import PacketRelay.Proofs.Retrying

/-!
What taking a connection off the queue comes to, and what closing the channel
does. The first depends on nothing but the queue and the fault that changes of
buffer sizes meet, the second on nothing but the files.
-/

namespace PacketRelay.Channel

open Kernel (Call Descriptor Buffer Knock)

inductive Taking (knocks : List Knock) :
    Except Errno (Option Nat) → List Knock → List Call → Prop
  | without {result : Except Errno (Option Nat)} {later : List Knock} {calls : List Call}
      (noneTaken : ∀ label, result ≠ .ok (some label)) (suffix : later <:+ knocks)
      (failed : ∀ call ∈ calls, ∃ errno, call = .accept (.error errno)) :
      Taking knocks result later calls
  | ready {label : Nat} (before : List Knock) {later : List Knock} {resized failed : List Call}
      (split : knocks = before ++ .connection label none :: later)
      (resizes : ∀ call ∈ resized, ∃ buffer size fault,
        call = .resize (.client label) buffer size fault)
      (fails : ∀ call ∈ failed, ∃ errno, call = .accept (.error errno)) :
      Taking knocks (.ok (some label)) later
        (resized ++ .unblock (.client label) none :: .accept (.ok label) :: failed)
  | refused {label : Nat} {errno : Errno} (before : List Knock) {later : List Knock}
      {failed : List Call}
      (split : knocks = before ++ .connection label (some errno) :: later)
      (fails : ∀ call ∈ failed, ∃ errno, call = .accept (.error errno)) :
      Taking knocks (.error errno) later
        (.close (.client label) :: .unblock (.client label) (some errno) ::
          .accept (.ok label) :: failed)

inductive Accepting (label : Nat) : Call → Prop
  | failed (errno : Errno) : Accepting label (.accept (.error errno))
  | accepted : Accepting label (.accept (.ok label))
  | unblocked (fault : Option Errno) : Accepting label (.unblock (.client label) fault)
  | resized (buffer : Buffer) (size : Int) (fault : Option Errno) :
      Accepting label (.resize (.client label) buffer size fault)
  | closed : Accepting label (.close (.client label))

theorem accepting_failed {failed : List Call} (label : Nat)
    (fails : ∀ call ∈ failed, ∃ errno, call = .accept (.error errno)) :
    ∀ call ∈ failed, Accepting label call := by
  intro call member
  obtain ⟨errno, rfl⟩ := fails call member
  exact .failed errno

theorem accepting_ready {label : Nat} {resized failed : List Call}
    (resizes : ∀ call ∈ resized, ∃ buffer size fault,
      call = .resize (.client label) buffer size fault)
    (fails : ∀ call ∈ failed, ∃ errno, call = .accept (.error errno)) :
    ∀ call ∈ resized ++ .unblock (.client label) none :: .accept (.ok label) :: failed,
      Accepting label call := by
  intro call member
  rcases List.mem_append.mp member with isResize | member
  · obtain ⟨buffer, size, fault, rfl⟩ := resizes call isResize
    exact .resized buffer size fault
  rcases List.mem_cons.mp member with rfl | member
  · exact .unblocked none
  rcases List.mem_cons.mp member with rfl | isFailed
  · exact .accepted
  · exact accepting_failed label fails call isFailed

theorem accepting_refused {label : Nat} {errno : Errno} {failed : List Call}
    (fails : ∀ call ∈ failed, ∃ errno, call = .accept (.error errno)) :
    ∀ call ∈ .close (.client label) :: .unblock (.client label) (some errno) ::
      .accept (.ok label) :: failed, Accepting label call := by
  intro call member
  rcases List.mem_cons.mp member with rfl | member
  · exact .closed
  rcases List.mem_cons.mp member with rfl | member
  · exact .unblocked (some errno)
  rcases List.mem_cons.mp member with rfl | isFailed
  · exact .accepted
  · exact accepting_failed label fails call isFailed

/-- Whatever comes of it, all calls are made while one client is accepted or refused. -/
theorem Taking.accepting {knocks later : List Knock} {result : Except Errno (Option Nat)}
    {calls : List Call} (taking : Taking knocks result later calls) :
    ∃ label, ∀ call ∈ calls, Accepting label call := by
  cases taking with
  | without _ _ failed => exact ⟨0, accepting_failed 0 failed⟩
  | ready _ _ resizes fails => exact ⟨_, accepting_ready resizes fails⟩
  | refused _ _ fails => exact ⟨_, accepting_refused fails⟩

theorem Taking.cons {knocks later : List Knock} {result : Except Errno (Option Nat)}
    {calls : List Call} (taking : Taking knocks result later calls) (knock : Knock)
    (errno : Errno) :
    Taking (knock :: knocks) result later (calls ++ [.accept (.error errno)]) := by
  have extended {calls : List Call}
    (fails : ∀ call ∈ calls, ∃ errno, call = .accept (.error errno)) :
      ∀ call ∈ calls ++ [.accept (.error errno)], ∃ errno, call = .accept (.error errno) := by
    intro call member
    rcases List.mem_append.mp member with inside | last
    · exact fails call inside
    · exact ⟨errno, List.mem_singleton.mp last⟩
  cases taking with
  | without noneTaken suffix failed =>
      exact .without noneTaken (suffix.trans (List.suffix_cons knock knocks)) (extended failed)
  | @ready label before later resized failed split resizes fails =>
      rw [List.append_assoc]
      exact .ready (knock :: before) (by rw [split]; rfl) resizes (extended fails)
  | @refused label errno before later failed split fails =>
      exact .refused (knock :: before) (by rw [split]; rfl) (extended fails)

def resizing (descriptor : Descriptor) (size : Nat) (fault : Option Errno) (buffer : Buffer) :
    Record :=
  ⟨[.resize descriptor buffer (Int.bmod size 4294967296) fault],
    (fault.map fun errno => .bufferRefused buffer size errno).toList⟩

theorem resizeOne_eq (descriptor : Descriptor) (size : Nat) (kernel : Kernel) (buffer : Buffer) :
    resizeOne descriptor size kernel buffer =
      { kernel with record :=
          (resizing descriptor size kernel.faults.resize buffer).onto kernel.record } := by
  unfold resizeOne
  cases refusal : kernel.faults.resize with
  | none => simp [Kernel.resize, refusal, Kernel.call, Record.call, resizing, Record.onto]
  | some errno =>
      simp [Kernel.resize, refusal, Kernel.call, Kernel.note, Record.call, Record.note, resizing,
        Record.onto]

theorem enlarge_eq (descriptor : Descriptor) (size : Nat) (kernel : Kernel) :
    enlarge descriptor size kernel =
      { kernel with record :=
          ((resizing descriptor size kernel.faults.resize .send).onto
            (resizing descriptor size kernel.faults.resize .receive)).onto kernel.record } := by
  simp only [enlarge, resizeOne_eq, Record.onto_onto]

theorem take_unfolds (size : Nat) (kernel : Kernel) :
    take size kernel =
      match kernel.accept with
      | (.ok (label, fault), after) => prepare size label fault after
      | (.error errno, after) =>
          if errno = .again then (.ok none, after)
          else if errno = .interrupted then take size after
          else (.error errno, after) := by
  rw [take]
  split <;> simp_all

theorem take_spec (size : Nat) (knocks : List Knock) (fault : Option Errno) :
    ∃ result later new, Taking knocks result later new.calls ∧
      (∀ notice ∈ new.notices, notice.isParting = false) ∧
      ∀ kernel : Kernel, kernel.knocks = knocks → kernel.faults.resize = fault →
        take size kernel =
          (result, { kernel with knocks := later, record := Record.onto new kernel.record }) := by
  -- Only an interrupted accept goes on to the rest of the queue.
  induction knocks with
  | nil =>
      refine ⟨.ok none, [], ⟨[.accept (.error .again)], []⟩,
        .without (by simp) List.suffix_rfl (by simp), by simp, ?_⟩
      intro kernel knocks sameFault
      rw [take_unfolds]
      simp only [Kernel.accept, knocks, if_true, Kernel.call, Record.call, Record.onto,
        List.singleton_append, List.nil_append]
  | cons knock rest ih =>
      cases knock with
      | connection label refusal =>
          cases refusal with
          | none =>
              refine ⟨.ok (some label), rest,
                (((resizing (.client label) size fault .send).onto
                  (resizing (.client label) size fault .receive)).onto
                  ⟨[.unblock (.client label) none, .accept (.ok label)], []⟩),
                .ready [] rfl (by simp [resizing, Record.onto]) (by simp), ?_, ?_⟩
              · cases fault with
                | none => simp [Record.onto, resizing]
                | some errno => simp [Record.onto, resizing, Log.Notice.isParting]
              · intro kernel knocks sameFault
                rw [take_unfolds]
                simp [Kernel.accept, knocks, prepare, Kernel.unblock, enlarge_eq, Kernel.call,
                  Record.call, Record.onto, sameFault]
          | some errno =>
              refine ⟨.error errno, rest, ⟨[.close (.client label),
                .unblock (.client label) (some errno), .accept (.ok label)], []⟩,
                .refused [] rfl (by simp), by simp, ?_⟩
              intro kernel knocks sameFault
              rw [take_unfolds]
              simp [Kernel.accept, knocks, prepare, Kernel.unblock, Kernel.close, Kernel.call,
                Record.call, Record.onto]
      | failure errno =>
          by_cases again : errno = .again
          · refine ⟨.ok none, rest, ⟨[.accept (.error errno)], []⟩,
              .without (by simp) (List.suffix_cons _ _) (by simp), by simp, ?_⟩
            intro kernel knocks sameFault
            rw [take_unfolds]
            simp [Kernel.accept, knocks, again, Kernel.call, Record.call, Record.onto]
          · by_cases interrupted : errno = .interrupted
            · obtain ⟨result, later, new, taking, plain, outcome⟩ := ih
              refine ⟨result, later, new.onto ⟨[.accept (.error errno)], []⟩,
                taking.cons _ errno, by simpa [Record.onto] using plain, ?_⟩
              intro kernel knocks sameFault
              rw [take_unfolds]
              have next := outcome ({ kernel with knocks := rest }.call (.accept (.error errno)))
                rfl sameFault
              simp only [Kernel.accept, knocks, if_neg again, if_pos interrupted, next,
                Record.onto_onto]
              rfl
            · refine ⟨.error errno, rest, ⟨[.accept (.error errno)], []⟩,
                .without (by simp) (List.suffix_cons _ _) (by simp), by simp, ?_⟩
              intro kernel knocks sameFault
              rw [take_unfolds]
              simp [Kernel.accept, knocks, again, interrupted, Kernel.call, Record.call,
                Record.onto]

theorem accept_spec (channel : Channel) (knocks : List Knock) (fault : Option Errno) :
    ∃ result later new, Taking knocks result later new.calls ∧
      (∀ notice ∈ new.notices, notice.isParting = false) ∧
      ∀ kernel : Kernel, kernel.knocks = knocks → kernel.faults.resize = fault →
        channel.accept kernel =
          (result, { kernel with knocks := later, record := Record.onto new kernel.record }) := by
  by_cases isOpen : channel.isOpen
  · simp only [accept, isOpen, if_true]
    exact take_spec channel.bufferSize knocks fault
  · refine ⟨.ok none, knocks, {}, .without (by simp) List.suffix_rfl (by simp), by simp, ?_⟩
    intro kernel sameKnocks sameFault
    simp [accept, isOpen, ← sameKnocks, Record.onto]

/-- Closing depends on the files and the faults alone. -/
theorem close_spec (channel : Channel) (files : Kernel.FileTree) (faults : Kernel.Faults) :
    ∃ closed left new,
      (∀ call ∈ Record.calls new, call = .close .channel ∨
        ∃ path failure, call = .removeFile path failure) ∧
      (∀ notice ∈ new.notices, notice.isParting = false) ∧
      ∀ kernel : Kernel, kernel.files = files → kernel.faults = faults →
        channel.close kernel =
          (closed, { kernel with files := left, record := Record.onto new kernel.record }) := by
  by_cases isOpen : channel.isOpen
  · cases removed : faults.removal channel.path files with
    | ok left =>
        refine ⟨{ channel with isOpen := false }, left,
          ⟨[.removeFile channel.path none, .close .channel], [.socketRemoved channel.path]⟩,
          by simp, by simp [Log.Notice.isParting], ?_⟩
        intro kernel same sameFaults
        simp [close, isOpen, Kernel.removeFile, Kernel.close, Kernel.call, Kernel.note, same,
          sameFaults, removed, Record.call, Record.note, Record.onto]
    | error error =>
        by_cases missing : error = .os .notFound
        · refine ⟨{ channel with isOpen := false }, files,
            ⟨[.removeFile channel.path (some error), .close .channel], []⟩, by simp, by simp, ?_⟩
          intro kernel same sameFaults
          simp [close, isOpen, Kernel.removeFile, Kernel.close, Kernel.call, same, sameFaults,
            removed, missing, Record.call, Record.onto]
        · refine ⟨{ channel with isOpen := false }, files,
            ⟨[.removeFile channel.path (some error), .close .channel],
              [.removalRefused channel.path error]⟩, by simp, by simp [Log.Notice.isParting], ?_⟩
          intro kernel same sameFaults
          simp [close, isOpen, Kernel.removeFile, Kernel.close, Kernel.call, Kernel.note, same,
            sameFaults, removed, missing, Record.call, Record.note, Record.onto]
  · refine ⟨channel, files, {}, by simp, by simp, ?_⟩
    intro kernel same _
    simp [close, isOpen, ← same, Record.onto]

end PacketRelay.Channel
