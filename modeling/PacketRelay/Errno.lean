import PacketRelay.Errno.Names

/-!
Error numbers of system calls and the texts they are shown with. Plain calls
show the description and the number; `poll` and the socket options show the
symbol and an older wording of the description.
-/

namespace PacketRelay

structure Errno where
  code : Nat
  deriving DecidableEq, Repr

namespace Errno

def notFound : Errno := ⟨2⟩
def interrupted : Errno := ⟨4⟩
def noDevice : Errno := ⟨6⟩
def again : Errno := ⟨11⟩
def notDirectory : Errno := ⟨20⟩
def isDirectory : Errno := ⟨21⟩
def invalid : Errno := ⟨22⟩
def nameTooLong : Errno := ⟨36⟩
def addressInUse : Errno := ⟨98⟩

def names? (errno : Errno) : Option (String × String) :=
  errnoNames.lookup errno.code

def description (errno : Errno) : String :=
  match errno.names? with
  | some (_, description) => description
  | none => if errno.code = 0 then "Success" else s!"Unknown error {errno.code}"

def message (errno : Errno) : String :=
  s!"{errno.description} (os error {errno.code})"

def symbol (errno : Errno) : String :=
  match errno.names? with
  | some (symbol, _) => symbol
  | none => "UnknownErrno"

/-- The wording that goes with `symbol`; it differs from `description` for some numbers. -/
def symbolDescription (errno : Errno) : String :=
  match olderDescriptions.lookup errno.code, errno.names? with
  | some older, _ => older
  | none, some (_, description) => description
  | none, none => "Unknown errno"

def symbolMessage (errno : Errno) : String :=
  s!"{errno.symbol}: {errno.symbolDescription}"

end Errno

/-- Why a file or socket operation failed: the system said so, or it was refused
before the system was asked. -/
inductive IoError where
  | os (errno : Errno)
  | pathTooLong
  | nulInPath
  | notUtf8
  deriving DecidableEq, Repr

def IoError.message : IoError → String
  | .os errno => errno.message
  | .pathTooLong => "path must be shorter than SUN_LEN"
  | .nulInPath => "file name contained an unexpected NUL byte"
  | .notUtf8 => "stream did not contain valid UTF-8"

end PacketRelay
