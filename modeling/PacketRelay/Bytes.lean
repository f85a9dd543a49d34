/-!
Byte strings and the four-byte big-endian words inside them. Main statement:
a number below 2^32 is read back from the word that was written for it.
-/

namespace PacketRelay

abbrev Bytes := List UInt8

namespace Bytes

/-- The four bytes of `n`, most significant first. Bits above the 32nd are lost. -/
def ofWord (n : Nat) : Bytes :=
  [UInt8.ofNat (n / 16777216), UInt8.ofNat (n / 65536), UInt8.ofNat (n / 256), UInt8.ofNat n]

/-- The number whose base-256 digits, most significant first, are these bytes. -/
def toNat (bytes : Bytes) : Nat :=
  bytes.foldl (fun total byte => total * 256 + byte.toNat) 0

theorem length_ofWord (n : Nat) : (ofWord n).length = 4 := rfl

theorem toNat_ofWord (n : Nat) (small : n < 4294967296) : toNat (ofWord n) = n := by
  simp only [toNat, ofWord, List.foldl_cons, List.foldl_nil, UInt8.toNat_ofNat']
  omega

end Bytes
end PacketRelay
