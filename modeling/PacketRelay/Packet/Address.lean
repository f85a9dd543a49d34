import PacketRelay.Bytes

/-!
The text of network addresses. IPv4 is dotted decimal. IPv6 writes groups in
lower-case hexadecimal and the first of the longest runs of at least two zero
groups as `::`; an IPv4-mapped address ends in dotted decimal.
-/

namespace PacketRelay.Packet.Address

def ipv4 (bytes : Bytes) : String :=
  ".".intercalate (bytes.map fun byte => toString byte.toNat)

/-- The sixteen-bit groups of an address; a last odd byte is left out. -/
def groups : Bytes → List Nat
  | high :: low :: rest => (high.toNat * 256 + low.toNat) :: groups rest
  | _ => []

def hex (group : Nat) : String :=
  String.ofList (Nat.toDigits 16 group)

def colons (list : List Nat) : String :=
  ":".intercalate (list.map hex)

structure Run where
  start : Nat
  length : Nat
  deriving DecidableEq, Repr

/-- The longest run of zero groups, the first one on a tie. -/
def longestZeroRun : List Nat → Run
  | [] => ⟨0, 0⟩
  | group :: rest =>
      let here := ((group :: rest).takeWhile (· == 0)).length
      let later := longestZeroRun rest
      if later.length ≤ here then ⟨0, here⟩ else ⟨later.start + 1, later.length⟩

def ipv6 (bytes : Bytes) : String :=
  let list := groups bytes
  if list.take 6 = [0, 0, 0, 0, 0, 65535] then
    "::ffff:" ++ ipv4 (bytes.drop 12)
  else
    let run := longestZeroRun list
    if run.length < 2 then colons list
    else colons (list.take run.start) ++ "::" ++ colons (list.drop (run.start + run.length))

end PacketRelay.Packet.Address
