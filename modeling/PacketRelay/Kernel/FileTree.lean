import PacketRelay.Bytes
import PacketRelay.Errno
import PacketRelay.Kernel.Table

/-!
A small file system: files, directories and sockets under one working
directory, found by paths. It answers as the system does, so each operation
says which of its errors comes first.
-/

namespace PacketRelay.Kernel

inductive Node where
  | file (content : Bytes)
  | directory
  | socket (mode : Nat)
  deriving DecidableEq, Repr

abbrev Location := List String

structure FileTree where
  entries : List (Location × Node) := []
  deriving DecidableEq, Repr

namespace FileTree

def maxPathBytes : Nat := 4095

def maxNameBytes : Nat := 255

def maxSocketPathBytes : Nat := 107

def permissionBits : Nat := 4096

-- The permission bits of a new socket under umask 022.
def bornMode : Nat := 493

def find? (tree : FileTree) (place : Location) : Option Node :=
  if place = [] then some .directory else tree.entries.lookup place

def erase (tree : FileTree) (place : Location) : FileTree :=
  ⟨Table.erase place tree.entries⟩

def insert (tree : FileTree) (place : Location) (node : Node) : FileTree :=
  ⟨Table.insert place node tree.entries⟩

theorem find?_erase (tree : FileTree) (place other : Location) (inside : other ≠ []) :
    (tree.erase place).find? other = if other = place then none else tree.find? other := by
  simp [find?, inside, erase, Table.lookup_erase]

theorem find?_insert (tree : FileTree) (place other : Location) (node : Node)
    (inside : place ≠ []) :
    (tree.insert place node).find? other =
      if other = place then some node else tree.find? other := by
  by_cases root : other = []
  · simp [find?, root, Ne.symm inside]
  · simp [find?, root, insert, Table.lookup_insert]

/-- Where a path leads: to a named entry of a directory that exists, or to a
directory that has no name of its own there, such as `.` or the root. -/
inductive Target where
  | entry (place : Location) (slash : Bool)
  | unnamed
  deriving DecidableEq, Repr

def walk (tree : FileTree) : Location → List String → Except Errno Location
  | here, [] => .ok here
  | here, name :: rest =>
      if name = "" ∨ name = "." then walk tree here rest
      else if name = ".." then walk tree here.dropLast rest
      else if maxNameBytes < name.utf8ByteSize then .error .nameTooLong
      else
        match tree.find? (here ++ [name]) with
        | none => .error .notFound
        | some .directory => walk tree (here ++ [name]) rest
        | some _ => .error .notDirectory

/-- The names before the last one, the last one, and whether slashes follow it. -/
def splitLast (path : String) : List String × String × Bool :=
  let names := path.splitOn "/"
  let kept := (names.reverse.dropWhile (· = "")).reverse
  (kept.dropLast, kept.getLast?.getD "", kept.length < names.length)

-- Names below the root of the system live under "/", apart from the working directory.
def origin (path : String) : Location :=
  if path.startsWith "/" then ["/"] else []

def resolve (tree : FileTree) (path : String) : Except IoError Target :=
  if path.contains '\x00' then .error .nulInPath
  else if path = "" then .error (.os .notFound)
  else if maxPathBytes < path.utf8ByteSize then .error (.os .nameTooLong)
  else
    let (parents, name, slash) := splitLast path
    match tree.walk (origin path) parents with
    | .error errno => .error (.os errno)
    | .ok parent =>
        if name = "" ∨ name = "." ∨ name = ".." then .ok .unnamed
        else if maxNameBytes < name.utf8ByteSize then .error (.os .nameTooLong)
        else .ok (.entry (parent ++ [name]) slash)

def remove (tree : FileTree) (path : String) : Except IoError FileTree :=
  match tree.resolve path with
  | .error error => .error error
  | .ok .unnamed => .error (.os .isDirectory)
  | .ok (.entry place slash) =>
      match tree.find? place with
      | none => .error (.os .notFound)
      | some .directory => .error (.os .isDirectory)
      | some _ => if slash then .error (.os .notDirectory) else .ok (tree.erase place)

/-- Makes a socket file. The empty path asks for an address without a file. -/
def bind (tree : FileTree) (path : String) : Except IoError FileTree :=
  if maxSocketPathBytes < path.utf8ByteSize then .error .pathTooLong
  else if path = "" then .ok tree
  else
    match tree.resolve path with
    | .error error => .error error
    | .ok .unnamed => .error (.os .addressInUse)
    | .ok (.entry place slash) =>
        match tree.find? place with
        | some _ => .error (.os .addressInUse)
        | none =>
            if slash then .error (.os .notFound)
            else .ok (tree.insert place (.socket bornMode))

/-- Sets the permission bits. Only those of sockets are kept. -/
def changeMode (tree : FileTree) (path : String) (mode : Nat) : Except IoError FileTree :=
  match tree.resolve path with
  | .error error => .error error
  | .ok .unnamed => .ok tree
  | .ok (.entry place slash) =>
      match tree.find? place with
      | none => .error (.os .notFound)
      | some .directory => .ok tree
      | some node =>
          if slash then .error (.os .notDirectory)
          else
            match node with
            | .socket _ => .ok (tree.insert place (.socket (mode % permissionBits)))
            | _ => .ok tree

def read (tree : FileTree) (path : String) : Except IoError Bytes :=
  match tree.resolve path with
  | .error error => .error error
  | .ok .unnamed => .error (.os .isDirectory)
  | .ok (.entry place slash) =>
      match tree.find? place with
      | none => .error (.os .notFound)
      | some .directory => .error (.os .isDirectory)
      | some node =>
          if slash then .error (.os .notDirectory)
          else
            match node with
            | .file content => .ok content
            | _ => .error (.os .noDevice)

def at? (tree : FileTree) (path : String) : Option Node :=
  match tree.resolve path with
  | .error _ => none
  | .ok .unnamed => some .directory
  | .ok (.entry place slash) =>
      match tree.find? place with
      | some .directory => some .directory
      | found => if slash then none else found

def write (tree : FileTree) (path : String) (content : Bytes) : FileTree :=
  match tree.resolve path with
  | .ok (.entry place false) =>
      match tree.find? place with
      | none | some (.file _) => tree.insert place (.file content)
      | some _ => tree
  | _ => tree

def makeDirectory (tree : FileTree) (path : String) : FileTree :=
  match tree.resolve path with
  | .ok (.entry place _) =>
      match tree.find? place with
      | none => tree.insert place .directory
      | some _ => tree
  | _ => tree

end FileTree
end PacketRelay.Kernel
