import PacketRelay.Program

/-!
The command itself. This host has no tunnel driver, so a relay that is asked
for ends with the report that there is no such device.
-/

namespace PacketRelay.Host

open Kernel (FileTree Location Node)

def descend (here : Location × FileTree) (name : String) : Location × FileTree :=
  let (place, tree) := here
  if name = "" ∨ name = "." then here
  else if name = ".." then (place.dropLast, tree)
  else (place ++ [name], tree.insert (place ++ [name]) .directory)

def holding (path : String) (node : Node) : FileTree :=
  let (parents, name, _) := FileTree.splitLast path
  let (place, tree) := parents.foldl descend (FileTree.origin path, {})
  tree.insert (place ++ [name]) node

def readNode (path : String) : IO (Option Node) := do
  try
    return some (.file (← IO.FS.readBinFile path).toList)
  catch error =>
    match error with
    | .inappropriateType .. => return some .directory
    | _ => return none

/-- The file system as far as a command line names a part of it. -/
def namedFiles (words : List String) : IO FileTree := do
  match CommandLine.parse words with
  | .ok { config := some path, .. } =>
      match ← readNode path with
      | some node => return holding path node
      | none => return {}
  | _ => return {}

def kernel (words : List String) : IO Kernel := do
  return { files := ← namedFiles words, faults.openTunnel := some .notFound }

end PacketRelay.Host

def main (words : List String) : IO UInt32 := do
  let kernel ← PacketRelay.Host.kernel words
  let filter ← IO.getEnv "RUST_LOG"
  let (report, _) := PacketRelay.Program.run { words, filter, polls := 1 } kernel
  for line in report.output do
    IO.println line
  for line in report.errors do
    IO.eprintln line
  return report.exit.code.toUInt32
