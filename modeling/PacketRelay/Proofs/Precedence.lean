import PacketRelay.Program
import PacketRelay.Proofs.Configuring
import PacketRelay.Proofs.Labels
import PacketRelay.Proofs.Paths

/-!
Where the settings of a run come from: the command line, else the file, else the
defaults. Main statement: a run tries to open the tunnel exactly if the file is valid by
itself and the settings are valid as a whole, and else ends with the first failure and
leaves the system alone.
-/

namespace PacketRelay

open Kernel (FileTree)

/-! ## What each field is to hold -/

namespace Settings

namespace Field

variable {kind : Kind}

def asked : Field kind → Change → Option kind.Held
  | .tunnelName, .tunnelName name => some name
  | .socketPath, .socketPath path => some path
  | .socketMode, .socketMode mode => some mode
  | .socketBufferSize, .socketBufferSize size => some size
  | .pollTimeout, .pollTimeout timeout => some timeout
  | .readMode, .readMode mode => some mode
  | .readBudget, .readBudget budget => some budget
  | .logLevel, .logLevel level => some level
  | _, _ => none

def askedLast (field : Field kind) (changes : List Change) : Option kind.Held :=
  (changes.filterMap field.asked).getLast?

def given (given : Given) : Field kind → Option kind.Held
  | .tunnelName => given.interface
  | .socketPath => given.socket
  | .logLevel => given.logLevel
  | .socketMode | .socketBufferSize | .pollTimeout | .readBudget | .readMode => none

theorem get_asked (field : Field kind) (settings : Settings) (change : Change) :
    field.get (settings.change change) = (field.asked change).getD (field.get settings) := by
  cases field <;> cases change <;> rfl

theorem get_askedLast (field : Field kind) (changes : List Change) (base : Settings) :
    field.get (changes.foldl Settings.change base) =
      (field.askedLast changes).getD (field.get base) := by
  induction changes generalizing base with
  | nil => rfl
  | cons first later ih =>
      rw [List.foldl_cons, ih, get_asked]
      cases wanted : field.asked first with
      | none => simp [askedLast, wanted]
      | some held => simp [askedLast, wanted, List.getLast?_cons]

theorem get_override (field : Field kind) (line : Given) (base : Settings) :
    field.get (line.override base) = (field.given line).getD (field.get base) := by
  cases field <;> rfl

end Field

/-- The settings that hold in each field what the command line gives for it, else what the
changes ask for, else the default. -/
def Merges (line : Given) (changes : List Change) (settings : Settings) : Prop :=
  ∀ (kind : Kind) (field : Field kind),
    field.get settings =
      (field.given line).getD ((field.askedLast changes).getD (field.get {}))

theorem merges_iff (line : Given) (changes : List Change) (settings : Settings) :
    Merges line changes settings ↔ settings = line.override (changes.foldl change {}) := by
  constructor
  · intro merges
    apply Field.ext
    intro kind field
    rw [merges, field.get_override, field.get_askedLast]
  · rintro rfl kind field
    rw [field.get_override, field.get_askedLast]

def changes (text : String) : Except Misread (List Change) :=
  match Document.parse? text with
  | some entries => readEntries entries
  | none => .error .malformed

theorem parse_eq (text : String) :
    parse text = (changes text).map fun changes => changes.foldl change {} := by
  unfold parse changes
  cases Document.parse? text with
  | none => rfl
  | some entries =>
      simp only [ofEntries]
      cases readEntries entries <;> rfl

end Settings

/-! ## What the file has to say -/

open Settings (Change Valid Fails Merges)

/-- What a settings file gives, if there is one: changes to settings that are valid with
them, or the first failure of reading the file, its text and the settings as a whole. -/
inductive FileGives (files : FileTree) : Option String → Except Failure (List Change) → Prop
  | nothing : FileGives files none (.ok [])
  | unread {path : String} {cause : IoError}
      (unread : (files.read path).bind Settings.decodeFile = .error cause) :
      FileGives files (some path) (.error (.settingsFile path cause))
  | misread {path text : String} {misread : Settings.Misread}
      (content : (files.read path).bind Settings.decodeFile = .ok text)
      (refused : Settings.changes text = .error misread) :
      FileGives files (some path) (.error (.settingsText path misread))
  | invalid {path text : String} {changes : List Change} {alone : Settings} {fault : Settings.Fault}
      (content : (files.read path).bind Settings.decodeFile = .ok text)
      (asks : Settings.changes text = .ok changes) (merges : Merges {} changes alone)
      (fails : Fails alone.checks fault) : FileGives files (some path) (.error (.settings fault))
  | loaded {path text : String} {changes : List Change} {alone : Settings}
      (content : (files.read path).bind Settings.decodeFile = .ok text)
      (asks : Settings.changes text = .ok changes) (merges : Merges {} changes alone)
      (valid : Valid alone) : FileGives files (some path) (.ok changes)

/-- The settings to run with, or the first failure: of the file, then of the whole. -/
inductive Chosen (given : Given) (files : FileTree) : Except Failure Settings → Prop
  | refused {failure : Failure} (file : FileGives files given.config (.error failure)) :
      Chosen given files (.error failure)
  | invalid {changes : List Change} {merged : Settings} {fault : Settings.Fault}
      (file : FileGives files given.config (.ok changes)) (merges : Merges given changes merged)
      (fails : Fails merged.checks fault) : Chosen given files (.error (.settings fault))
  | opens {changes : List Change} {merged : Settings}
      (file : FileGives files given.config (.ok changes)) (merges : Merges given changes merged)
      (valid : Valid merged) : Chosen given files (.ok merged)

def FileGives.settings : Except Failure (List Change) → Except Failure Settings :=
  Except.map fun changes => changes.foldl Settings.change {}

theorem Settings.ofFile_changes {files : FileTree} {path text : String} {changes : List Change}
    (content : (files.read path).bind Settings.decodeFile = .ok text)
    (asks : Settings.changes text = .ok changes) :
    Settings.ofFile path files = (changes.foldl Settings.change {}).checked := by
  rw [Settings.ofFile_eq, content]
  simp only [Settings.parse_eq, asks, Except.map]

/-- What the file stage gives is what loading gives. -/
theorem FileGives.ofFile {files : FileTree} {path : String} {outcome : Except Failure (List Change)}
    (file : FileGives files (some path) outcome) :
    Settings.ofFile path files = FileGives.settings outcome := by
  cases file with
  | unread unread =>
      rw [Settings.ofFile_eq, unread]
      rfl
  | misread content refused =>
      rw [Settings.ofFile_eq, content]
      simp [Settings.parse_eq, refused, Except.map, settings]
  | invalid content asks merges fails =>
      obtain rfl := (Settings.merges_iff _ _ _).mp merges
      exact (Settings.ofFile_changes content asks).trans (Settings.checked_fails fails)
  | loaded content asks merges valid =>
      obtain rfl := (Settings.merges_iff _ _ _).mp merges
      exact (Settings.ofFile_changes content asks).trans (Settings.checked_valid valid)

theorem exists_fileGives (files : FileTree) (config : Option String) :
    ∃ outcome, FileGives files config outcome := by
  cases config with
  | none => exact ⟨_, .nothing⟩
  | some path =>
      cases content : (files.read path).bind Settings.decodeFile with
      | error cause => exact ⟨_, .unread content⟩
      | ok text =>
          cases asks : Settings.changes text with
          | error misread => exact ⟨_, .misread content asks⟩
          | ok changes =>
              have merges := (Settings.merges_iff {} changes _).mpr rfl
              rcases Settings.valid_or_fails _ with valid | ⟨fault, fails⟩
              · exact ⟨_, .loaded content asks merges valid⟩
              · exact ⟨_, .invalid content asks merges fails⟩

theorem exists_chosen (given : Given) (files : FileTree) :
    ∃ outcome, Chosen given files outcome := by
  obtain ⟨failure | changes, file⟩ := exists_fileGives files given.config
  · exact ⟨_, .refused file⟩
  · have merges := (Settings.merges_iff given changes _).mpr rfl
    rcases Settings.valid_or_fails _ with valid | ⟨fault, fails⟩
    · exact ⟨_, .opens file merges valid⟩
    · exact ⟨_, .invalid file merges fails⟩

theorem FileGives.base {given : Given} {kernel : Kernel} {outcome : Except Failure (List Change)}
    (file : FileGives kernel.files given.config outcome) :
    ∃ notices, given.base kernel =
      (FileGives.settings outcome, { kernel with record.notices := notices }) := by
  unfold Given.base
  cases config : given.config with
  | none =>
      rw [config] at file
      cases file
      exact ⟨_, rfl⟩
  | some path =>
      rw [config] at file
      refine ⟨.loadingSettings path :: kernel.record.notices, ?_⟩
      dsimp only
      rw [Settings.load, file.ofFile]
      rfl

theorem Chosen.settings {given : Given} {kernel : Kernel} {outcome : Except Failure Settings}
    (chosen : Chosen given kernel.files outcome) :
    ∃ notices, given.settings kernel = (outcome, { kernel with record.notices := notices }) := by
  cases chosen with
  | refused file =>
      obtain ⟨notices, base⟩ := file.base
      refine ⟨notices, ?_⟩
      rw [Given.settings, base]
      rfl
  | invalid file merges fails =>
      obtain ⟨notices, base⟩ := file.base
      obtain rfl := (Settings.merges_iff _ _ _).mp merges
      refine ⟨notices, ?_⟩
      rw [Given.settings, base, ← Settings.checked_fails fails]
      rfl
  | opens file merges valid =>
      obtain ⟨notices, base⟩ := file.base
      obtain rfl := (Settings.merges_iff _ _ _).mp merges
      refine ⟨notices, ?_⟩
      rw [Given.settings, base, ← Settings.checked_valid valid]
      rfl

/-! ## The calls of a run -/

namespace Site

theorem passes_grows (polls : Nat) (site : Site) (ordered : site.relay.roster.Ordered) :
    site.calls <:+ (site.passes polls).2.calls := by
  induction polls generalizing site with
  | zero => exact List.suffix_rfl
  | succ polls ih =>
      have start : (if polls = 0 then site.requestStop else site).calls = site.calls ∧
          (if polls = 0 then site.requestStop else site).relay.roster = site.relay.roster := by
        split <;> exact ⟨rfl, rfl⟩
      have path := pass_path (if polls = 0 then site.requestStop else site) (start.2 ▸ ordered)
      unfold passes
      split
      · exact List.suffix_rfl
      · split
        · next failure after failed =>
            rw [failed] at path
            exact start.1 ▸ path.grows
        · next after passed =>
            rw [passed] at path
            exact (start.1 ▸ path.grows).trans (ih after (path.ordered (start.2 ▸ ordered)))

theorem run_grows (polls : Nat) (site : Site) (ordered : site.relay.roster.Ordered) :
    site.calls <:+ (site.run polls).2.calls :=
  (passes_grows polls ({ site with relay.running := true }.note .running) ordered).trans
    (shutdown_path _).grows

end Site

namespace Program

/-- Whether a call to open the tunnel was made on the way from one kernel to another. -/
def Tries (kernel after : Kernel) : Prop :=
  ∃ made fault, after.record.calls = made ++ kernel.record.calls ∧ .openTunnel fault ∈ made

/-- How a run goes by the choice of its settings: it starts a relay with them, or ends
with the failure and does no more than give a notice. -/
inductive Conduct (invocation : Invocation) (kernel : Kernel) :
    Except Failure Settings → Report × Kernel → Prop
  | refuses {failure : Failure} {notices : List Log.Notice} :
      Conduct invocation kernel (.error failure)
        (ofFailure failure, { kernel with record.notices := notices })
  | opens {settings : Settings} {result : Except Failure Relay} {calls : List Kernel.Call}
      {files : FileTree}
      (starting : Relay.Starting settings { kernel with record.notices := [] } result calls files)
      (tried : ∃ fault, .openTunnel fault ∈ calls)
      (first : calls ++ kernel.record.calls <:+
        (runWith settings invocation kernel).2.record.calls) :
      Conduct invocation kernel (.ok settings) (runWith settings invocation kernel)

/-- A relay makes the calls of its start before any other. -/
theorem relay_calls (settings : Settings) (polls : Nat) (kernel : Kernel) :
    ∃ calls files, Relay.Starting settings kernel (Relay.start settings kernel).1 calls files ∧
      calls ++ kernel.record.calls <:+ (relay settings polls kernel).2.record.calls := by
  obtain ⟨calls, files, starting, leads⟩ := Relay.start_starting settings kernel
  refine ⟨calls, files, starting, ?_⟩
  have called := leads.calls
  unfold relay
  generalize Relay.start settings kernel = made at starting called
  rw [← called]
  obtain ⟨failure | relay, started⟩ := made
  · exact List.suffix_rfl
  · have ordered : relay.roster.Ordered := by
      cases starting with
      | started => exact ⟨List.Pairwise.nil, by simp [Relay.withTunnel]⟩
    have grows := Site.run_grows polls { relay, kernel := started } ordered
    dsimp only
    generalize ({ relay, kernel := started } : Site).run polls = ran at grows
    obtain ⟨failure | _, site⟩ := ran
    · exact grows
    · exact grows

theorem starting_tries {settings : Settings} {kernel : Kernel} {result : Except Failure Relay}
    {calls : List Kernel.Call} {files : FileTree} (valid : settings.check = .ok ())
    (starting : Relay.Starting settings kernel result calls files) :
    ∃ fault, .openTunnel fault ∈ calls := by
  have openingTries {result : Except Failure String} {calls : List Kernel.Call}
      (opening : Tunnel.Opening settings.tunnelName kernel.faults result calls) :
      ∃ fault, .openTunnel fault ∈ calls := by
    cases opening <;> exact ⟨_, List.mem_of_getLast? rfl⟩
  cases starting with
  | unchecked check => cases valid.symm.trans check
  | unopened checked opening => exact openingTries opening
  | unbound checked opening binding =>
      obtain ⟨fault, member⟩ := openingTries opening
      exact ⟨fault, by simp [member]⟩
  | started checked opening binding =>
      obtain ⟨fault, member⟩ := openingTries opening
      exact ⟨fault, by simp [member]⟩

theorem run_conduct {invocation : Invocation} {given : Given} {kernel : Kernel}
    (parsed : CommandLine.parse invocation.words = .ok given) {outcome : Except Failure Settings}
    (chosen : Chosen given kernel.files outcome) :
    Conduct invocation kernel outcome (run invocation kernel) := by
  obtain ⟨notices, made⟩ := chosen.settings
  unfold run
  rw [parsed]
  dsimp only
  unfold runGiven
  rw [made]
  cases chosen with
  | refused => exact .refuses
  | invalid => exact .refuses
  | @opens changes merged file merges valid =>
      have checked := (Settings.check_ok_iff merged).mpr valid
      obtain ⟨calls, files, starting, first⟩ :=
        relay_calls merged invocation.polls { kernel with record.notices := [] }
      exact .opens starting (starting_tries checked starting) first

/-- The settings of a run hold what the command line gives, else what the file asks for,
else the defaults. The tunnel is tried exactly if the file is valid by itself and the
settings are valid as a whole, and with these settings; else the run ends with the first
failure, of the file and then of the whole, and leaves the system as it was. -/
theorem run_precedence {invocation : Invocation} {given : Given}
    (parsed : CommandLine.parse invocation.words = .ok given) (kernel : Kernel) :
    (∃ outcome, Chosen given kernel.files outcome) ∧
      (∀ outcome, Chosen given kernel.files outcome →
        Conduct invocation kernel outcome (run invocation kernel)) ∧
      (Tries kernel (run invocation kernel).2 ↔
        ∃ settings, Chosen given kernel.files (.ok settings)) := by
  refine ⟨exists_chosen given kernel.files, fun _ => run_conduct parsed, ?_⟩
  constructor
  · rintro ⟨made, fault, grown, member⟩
    obtain ⟨outcome, chosen⟩ := exists_chosen given kernel.files
    cases outcome with
    | ok settings => exact ⟨settings, chosen⟩
    | error failure =>
        have conduct := run_conduct parsed chosen
        generalize run invocation kernel = ran at conduct grown
        cases conduct with
        | refuses =>
            obtain rfl : made = [] := List.self_eq_append_left.mp grown
            cases member
  · rintro ⟨settings, chosen⟩
    have conduct := run_conduct parsed chosen
    generalize run invocation kernel = ran at conduct
    cases conduct with
    | @opens _ _ calls files starting tried first =>
        obtain ⟨fault, member⟩ := tried
        obtain ⟨later, grown⟩ := first
        refine ⟨later ++ calls, fault, ?_, by simp [member]⟩
        rw [← grown, List.append_assoc]

/-- A name in the file that is not valid ends the run though the command line gives another. -/
theorem run_precedence_masked :
    let kernel : Kernel := { files := ⟨[(["s"], .file "tun_name=''".toUTF8.data.toList)]⟩ }
    let invocation : Invocation := { words := ["-c", "s", "vpn1"], polls := 1 }
    ¬ Tries kernel (run invocation kernel).2 ∧
      (run invocation kernel).1 = ofFailure (.settings (.tunnelName "")) := by
  intro kernel invocation
  have parsed : CommandLine.parse invocation.words =
      .ok { interface := some "vpn1", config := some "s" } := rfl
  obtain ⟨_, conducts, tries⟩ := run_precedence parsed kernel
  have content : (kernel.files.read "s").bind Settings.decodeFile = .ok "tun_name=''" := by
    have stored : kernel.files.read "s" = .ok "tun_name=''".toUTF8.data.toList := by
      simp [FileTree.read, resolve_single, FileTree.find?, kernel]
    rw [stored]
    exact Settings.decodeFile_toUTF8 "tun_name=''"
  have asks : Settings.changes "tun_name=''" = .ok [.tunnelName ""] := by
    have nothing : Document.Blank [] := by simp [Document.Blank]
    have literal : Document.WritesText "" "''".toList :=
      .literal (show ∀ c ∈ ([] : List Char), _ by simp)
    have line : Document.WritesEntry ("tun_name", .text "")
        ([] ++ ("tun_name".toList ++ ([] ++ '=' :: ([] ++ ("''".toList ++ []))))) :=
      .entry (by decide) (Document.each (by decide)) nothing nothing nothing
        (.scalar (.text literal)) (.blank nothing)
    have written : Document.WritesLines [("tun_name", .text "")] "tun_name=''".toList := by
      simpa using Document.WritesLines.entry line .nothing (.none (.blank nothing))
    rw [Settings.changes, Document.parse?_written written (by simp)]
    rfl
  have chosen : Chosen { interface := some "vpn1", config := some "s" } kernel.files
      (.error (.settings (.tunnelName ""))) :=
    .refused (.invalid content asks ((Settings.merges_iff _ _ _).mpr rfl) (.here (by decide)))
  constructor
  · rw [tries]
    rintro ⟨settings, also⟩
    obtain ⟨_, one⟩ := chosen.settings
    obtain ⟨_, two⟩ := also.settings
    cases one.symm.trans two
  · have conduct := conducts _ chosen
    generalize run invocation kernel = ran at conduct
    cases conduct
    rfl

end Program

end PacketRelay
