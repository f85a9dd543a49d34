/-!
How deep the parts of a pattern lie in one another. Parts that stand in a row
are one part when the row is read as a whole. That adds a level only if there
are several of them.
-/

namespace PacketRelay.Log

structure Row where
  count : Nat := 0
  /-- The depth of the last part. -/
  last : Nat := 0
  /-- The greatest depth of the parts before it. -/
  before : Nat := 0
  deriving DecidableEq, Repr

namespace Row

def push (row : Row) (depth : Nat) : Row :=
  ⟨row.count + 1, depth, max row.before row.last⟩

def deepen (row : Row) : Row :=
  { row with last := row.last + 1 }

/-- The depth of the row as one part. An empty row is a part without depth. -/
def depth (row : Row) : Nat :=
  let deepest := max row.before row.last
  if row.count < 2 then deepest else deepest + 1

end Row

/-- What is read of a class: the last operand of its operators, and how deep what stands before
it is, if it has an operator. -/
structure Operands where
  left : Option Nat := none
  right : Row := {}
  deriving DecidableEq, Repr

namespace Operands

def push (operands : Operands) (depth : Nat) : Operands :=
  { operands with right := operands.right.push depth }

/-- An operator is one level above its operands. It binds to the left. -/
def depth (operands : Operands) : Nat :=
  match operands.left with
  | none => operands.right.depth
  | some left => max left operands.right.depth + 1

def operator (operands : Operands) : Operands :=
  ⟨some operands.depth, {}⟩

end Operands

structure Branches where
  finished : Row := {}
  current : Row := {}
  deriving DecidableEq, Repr

namespace Branches

def push (branches : Branches) (depth : Nat) : Branches :=
  { branches with current := branches.current.push depth }

def deepen (branches : Branches) : Branches :=
  { branches with current := branches.current.deepen }

def branch (branches : Branches) : Branches :=
  ⟨branches.finished.push branches.current.depth, {}⟩

def depth (branches : Branches) : Nat :=
  (branches.finished.push branches.current.depth).depth

end Branches
end PacketRelay.Log
