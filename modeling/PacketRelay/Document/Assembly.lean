import PacketRelay.Document.Value

/-!
From statements to tables. A key is defined once: a header may name a table
that so far is only implied by others, and dotted keys may extend only tables
that dotted keys made.
-/

namespace PacketRelay.Document

inductive Statement where
  | assign (key : List String) (value : Value)
  | table (key : List String)
  | element (key : List String)

def setEntry (key : String) (value : Value) (entries : Entries) : Entries :=
  entries.map fun entry => if entry.1 = key then (key, value) else entry

def dropEntry (key : String) (entries : Entries) : Entries :=
  entries.filter fun entry => entry.1 ≠ key

/-- Changes the table at a path and gives what the change gave. Missing tables
on the way become implicit ones; the last element of an array of tables stands
for the array. `change` is told whether dotted keys made the table. -/
def within {α : Type} (viaDotted : Bool) (change : Bool → Entries → Option (α × Entries)) :
    List String → Bool → Entries → Option (α × Entries)
  | [], dotted, entries => change dotted entries
  | key :: path, _, entries =>
      match entries.lookup key with
      | none => do
          let (result, inner) ← within viaDotted change path viaDotted []
          return (result, entries ++ [(key, .table true viaDotted inner)])
      | some (.table implicit dotted inner) =>
          if viaDotted && !implicit then none
          else do
            let (result, inner) ← within viaDotted change path dotted inner
            return (result, setEntry key (.table implicit dotted inner) entries)
      | some (.tables elements) =>
          match elements with
          | [] => none
          | last :: others => do
              let (result, last) ← within viaDotted change path false last
              return (result, setEntry key (.tables (last :: others)) entries)
      | some _ => none

/-- Adds a value under a new key. A dotted path has to end in a table that dotted keys made. -/
def addNew (key : String) (value : Value) (viaDotted dotted : Bool) (entries : Entries) :
    Option (Unit × Entries) :=
  if viaDotted ≠ dotted then none
  else
    match entries.lookup key with
    | some _ => none
    | none => some ((), entries ++ [(key, value)])

def splitKey (key : List String) : List String × String :=
  (key.dropLast, key.getLast?.getD "")

def assign (key : List String) (value : Value) (entries : Entries) : Option Entries :=
  let (path, name) := splitKey key
  (within true (addNew name value !path.isEmpty) path false entries).map (·.2)

def collect (assignments : List (List String × Value)) : Option Entries :=
  assignments.foldlM (fun entries (key, value) => assign key value entries) []

/-- A document in the making: the finished part, and the table whose lines are being read. -/
structure Assembly where
  root : Entries := []
  current : Entries := []
  path : List String := []
  isElement : Bool := false

namespace Assembly

/-- Takes an implied table out to be written in full; a new one starts empty. -/
def takeImplied (name : String) (_ : Bool) (entries : Entries) : Option (Entries × Entries) :=
  match entries.lookup name with
  | none => some ([], entries)
  | some (.table true false inner) => some (inner, dropEntry name entries)
  | some _ => none

def takeElements (name : String) (_ : Bool) (entries : Entries) : Option (Unit × Entries) :=
  match entries.lookup name with
  | none => some ((), entries ++ [(name, .tables [])])
  | some (.tables _) => some ((), entries)
  | some _ => none

def putTable (name : String) (table : Entries) (_ : Bool) (entries : Entries) :
    Option (Unit × Entries) :=
  match entries.lookup name with
  | none => some ((), entries ++ [(name, .table false false table)])
  | some _ => none

def putElement (name : String) (table : Entries) (_ : Bool) (entries : Entries) :
    Option (Unit × Entries) :=
  match entries.lookup name with
  | some (.tables elements) => some ((), setEntry name (.tables (table :: elements)) entries)
  | _ => none

def finish (assembly : Assembly) : Option Entries :=
  let (path, name) := splitKey assembly.path
  if assembly.path.isEmpty then some assembly.current
  else if assembly.isElement then
    (within false (putElement name assembly.current) path false assembly.root).map (·.2)
  else
    (within false (putTable name assembly.current) path false assembly.root).map (·.2)

def step (assembly : Assembly) (statement : Statement) : Option Assembly :=
  match statement with
  | .assign key value => do
      return { assembly with current := ← assign key value assembly.current }
  | .table key => do
      let (path, name) := splitKey key
      let (current, root) ← within false (takeImplied name) path false (← assembly.finish)
      return { root, current, path := key }
  | .element key => do
      let (path, name) := splitKey key
      let (_, root) ← within false (takeElements name) path false (← assembly.finish)
      return { root, current := [], path := key, isElement := true }

end Assembly

def assemble (statements : List Statement) : Option Entries := do
  (← statements.foldlM Assembly.step {}).finish

end PacketRelay.Document
