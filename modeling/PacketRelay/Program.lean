import PacketRelay.CommandLine
import PacketRelay.Log.Filter
import PacketRelay.Relay.Pass
import PacketRelay.Settings.Load
import PacketRelay.Text.Terminal

/-!
The program: read the command line, choose the settings, start the relay, run
it until a signal asks it to stop, and report how it went.
-/

namespace PacketRelay

namespace Given

def override (given : Given) (settings : Settings) : Settings :=
  { settings with
    tunnelName := given.interface.getD settings.tunnelName
    socketPath := given.socket.getD settings.socketPath
    logLevel := given.logLevel.getD settings.logLevel }

def base (given : Given) (kernel : Kernel) : Except Failure Settings × Kernel :=
  match given.config with
  | none => (.ok {}, kernel)
  | some path => Settings.load path kernel

/-- The settings to run with, or the first failure: of the file, then of the whole. -/
def settings (given : Given) (kernel : Kernel) : Except Failure Settings × Kernel :=
  match given.base kernel with
  | (.error failure, kernel) => (.error failure, kernel)
  | (.ok base, kernel) =>
      let merged := given.override base
      (merged.check.mapError .settings |>.map fun () => merged, kernel)

end Given

namespace Program

structure Invocation where
  words : List String
  /-- The log filter of the environment. -/
  filter : Option String := none
  /-- A signal asks for a stop during this poll at the latest. -/
  polls : Nat

inductive Exit where
  | success
  | failure
  | misuse
  deriving DecidableEq, Repr

def Exit.code : Exit → Nat
  | .success => 0
  | .failure => 1
  | .misuse => 2

structure Report where
  exit : Exit
  output : List String := []
  errors : List String := []
  deriving DecidableEq, Repr

/-! ## Logging -/

/-- The log filter, and what is said about its bad directives. That of the
environment counts if all of it can be read, else the level of the settings does. -/
def chooseFilter (environment : Option String) (level : String) : Log.Filter × List String :=
  match environment.bind Log.Filter.parse? with
  | some filter => (filter, [])
  | none =>
      (Log.Filter.ofGood level,
        (Log.Filter.faults level).map fun (part, fault) => s!"ignoring `{part}`: {fault.message}")

def noticeLines (notice : Log.Notice) : List String :=
  (notice.level.name ++ " " ++ Text.Terminal.shown notice.text).splitOn "\n"

def logged (filter : Log.Filter) (record : Record) : List String :=
  (record.notices.reverse.filter filter.lets).flatMap noticeLines

/-! ## Reporting a failure -/

def indent (width : Nat) (line : String) : String :=
  String.ofList (List.replicate width ' ') ++ line

/-- A cause, with its number if it has one. Its later lines are indented as far as its first. -/
def causeLines (number : Option Nat) (cause : String) : List String :=
  let (label, width) := match number with
    | none => (indent 4 "", 4)
    | some n => (indent (5 - (toString n).length) s!"{n}: ", 7)
  match cause.splitOn "\n" with
  | [] => [label]
  | first :: later => (label ++ first) :: later.map (indent width)

def allCauseLines (causes : List String) : List String :=
  match causes with
  | [cause] => causeLines none cause
  | _ => (causes.zipIdx.map fun (cause, number) => causeLines (some number) cause).flatten

def errorLines (message : String) (causes : List String) : List String :=
  s!"Error: {message}" ::
    (if causes.isEmpty then [] else "" :: "Caused by:" :: allCauseLines causes)

def ended (message : String) (causes : List String) : Report :=
  { exit := .failure, errors := errorLines message causes }

def ofFailure (failure : Failure) : Report :=
  ended failure.message failure.cause?.toList

def ofStartFailure (failure : Failure) : Report :=
  ended "failed to start bridge" (failure.message :: failure.cause?.toList)

/-! ## Running -/

def relay (settings : Settings) (polls : Nat) (kernel : Kernel) : Report × Kernel :=
  match Relay.start settings kernel with
  | (.error failure, kernel) => (ofStartFailure failure, kernel)
  | (.ok relay, kernel) =>
      match { relay, kernel : Site }.run polls with
      | (.error failure, site) => (ofFailure failure, site.kernel)
      | (.ok (), site) => ({ exit := .success }, site.kernel.note .shutDown)

/-- Runs with settings that have been checked. Nothing from before is logged. -/
def runWith (settings : Settings) (invocation : Invocation) (kernel : Kernel) : Report × Kernel :=
  let (filter, complaints) := chooseFilter invocation.filter settings.logLevel
  let (report, after) := relay settings invocation.polls { kernel with record.notices := [] }
  ({ report with
      output := logged filter after.record
      errors := complaints ++ report.errors },
    after)

def runGiven (given : Given) (invocation : Invocation) (kernel : Kernel) : Report × Kernel :=
  match given.settings kernel with
  | (.error failure, kernel) => (ofFailure failure, kernel)
  | (.ok settings, kernel) => runWith settings invocation kernel

def run (invocation : Invocation) (kernel : Kernel) : Report × Kernel :=
  match CommandLine.parse invocation.words with
  | .error (.misuse misuse) =>
      ({ exit := .misuse, errors := [s!"error: {misuse.message}"] }, kernel)
  | .error (.switch .help) => ({ exit := .success, output := CommandLine.helpText }, kernel)
  | .error (.switch .version) => ({ exit := .success, output := CommandLine.versionText }, kernel)
  | .ok given => runGiven given invocation kernel

end Program
end PacketRelay
