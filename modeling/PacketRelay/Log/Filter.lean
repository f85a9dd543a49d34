import PacketRelay.Log.Directive

/-!
Log filters. A filter is a list of directives separated by commas. Of the
directives for a notice the most particular one decides.
-/

namespace PacketRelay.Log

abbrev Filter := List Directive

namespace Filter

def split (text : String) : List String :=
  (text.splitOn ",").filter fun part => part ≠ ""

def parse? (text : String) : Option Filter :=
  (split text).mapM fun part => (Directive.parse part).toOption

def faults (text : String) : List (String × Directive.Fault) :=
  (split text).filterMap fun part =>
    match Directive.parse part with
    | .ok _ => none
    | .error fault => some (part, fault)

/-- Reads a filter without its bad directives. If none is left, only errors are let through. -/
def ofGood (text : String) : Filter :=
  match (split text).filterMap fun part => (Directive.parse part).toOption with
  | [] => [{ verbosity := some .error }]
  | directives => directives

/-- The directive that decides for a target. Of two that are alike it is the later. -/
def deciding (filter : Filter) (target : String) : Option Directive :=
  (filter.filter (·.covers target)).foldl
    (fun best directive =>
      match best with
      | none => some directive
      | some held => if held.yieldsTo directive then some directive else some held)
    none

def lets (filter : Filter) (notice : Notice) : Bool :=
  match filter.deciding notice.target with
  | none => false
  | some directive => notice.level.within directive.verbosity

end Filter
end PacketRelay.Log
