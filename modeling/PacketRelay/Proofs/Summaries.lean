import PacketRelay.Packet.Summary

/-!
What the summary of a packet says and what it is made of. Main statement: its line
tells exactly what kind of header the packet has, every field it shows stands in the
packet, and nothing behind the fixed header has a part in it.
-/

namespace PacketRelay.Packet

def HasAt (packet : Bytes) (offset : Nat) (part : Bytes) : Prop :=
  ∃ front back, packet = front ++ part ++ back ∧ front.length = offset

inductive Kind where
  | ipv4
  | ipv6
  | brokenIPv4
  | brokenIPv6
  | other
  deriving DecidableEq, Repr

def OfVersion (packet : Bytes) (number : Nat) : Prop :=
  ∃ first, packet.head? = some first ∧ first.toNat / 16 = number

/-- An IPv4 header stands whole at the front, with the options that its length field
announces in words of four bytes. -/
def HeadedIPv4 (packet : Bytes) : Prop :=
  ∃ first, packet.head? = some first ∧ first.toNat / 16 = 4 ∧ 20 ≤ packet.length ∧
    5 ≤ first.toNat % 16 ∧ 4 * (first.toNat % 16) ≤ packet.length

def HeadedIPv6 (packet : Bytes) : Prop :=
  OfVersion packet 6 ∧ 40 ≤ packet.length

def Kind.Suits (packet : Bytes) : Kind → Prop
  | .ipv4 => HeadedIPv4 packet
  | .ipv6 => HeadedIPv6 packet
  | .brokenIPv4 => OfVersion packet 4 ∧ ¬ HeadedIPv4 packet
  | .brokenIPv6 => OfVersion packet 6 ∧ ¬ HeadedIPv6 packet
  | .other => ¬ OfVersion packet 4 ∧ ¬ OfVersion packet 6

def lengthText (packet : Bytes) : String :=
  s!"({packet.length} bytes)"

/-- A line of each kind. All that it shows stands in the packet, but for its length. -/
inductive Line (packet : Bytes) : Kind → String → Prop
  | ipv4 {source target : Bytes} {protocol : UInt8}
      (sized : source.length = 4 ∧ target.length = 4) (numbered : HasAt packet 9 [protocol])
      (sent : HasAt packet 12 source) (addressed : HasAt packet 16 target) :
      Line packet .ipv4 (s!"IPv4 {Address.ipv4 source} → {Address.ipv4 target}" ++
        s!" proto={protocol.toNat} {lengthText packet}")
  | ipv6 {source target : Bytes} {next : UInt8}
      (sized : source.length = 16 ∧ target.length = 16) (numbered : HasAt packet 6 [next])
      (sent : HasAt packet 8 source) (addressed : HasAt packet 24 target) :
      Line packet .ipv6 (s!"IPv6 {Address.ipv6 source} → {Address.ipv6 target}" ++
        s!" next={next.toNat} {lengthText packet}")
  | brokenIPv4 : Line packet .brokenIPv4 s!"malformed IPv4 {lengthText packet}"
  | brokenIPv6 : Line packet .brokenIPv6 s!"malformed IPv6 {lengthText packet}"
  | other : Line packet .other s!"non-IP {lengthText packet}"

/-! ## Fields -/

theorem slice_length {packet : Bytes} {start length : Nat}
    (within : start + length ≤ packet.length) : (slice packet start length).length = length := by
  simp only [slice, List.length_take, List.length_drop]
  omega

theorem slice_hasAt {packet : Bytes} {start length : Nat}
    (within : start + length ≤ packet.length) :
    HasAt packet start (slice packet start length) := by
  refine ⟨packet.take start, (packet.drop start).drop length, ?_, ?_⟩
  · rw [slice, List.append_assoc, List.take_append_drop, List.take_append_drop]
  · rw [List.length_take]
    omega

theorem byteAt_hasAt {packet : Bytes} {index : Nat} (within : index < packet.length) :
    ∃ byte, byteAt packet index = byte.toNat ∧ HasAt packet index [byte] := by
  refine ⟨packet[index], by simp [byteAt, within], packet.take index, packet.drop (index + 1),
    ?_, ?_⟩
  · rw [List.append_assoc, List.singleton_append, List.getElem_cons_drop, List.take_append_drop]
  · rw [List.length_take]
    omega

theorem version_eq_some (packet : Bytes) (number : Nat) :
    version packet = some number ↔ OfVersion packet number := by
  simp [version, OfVersion, Option.map_eq_some_iff]

theorem hasIPv4Header_iff (packet : Bytes) (versioned : OfVersion packet 4) :
    hasIPv4Header packet = true ↔ HeadedIPv4 packet := by
  obtain ⟨first, head, nibble⟩ := versioned
  cases packet with
  | nil => simp at head
  | cons byte rest =>
      obtain rfl : byte = first := by simpa using head
      simp [hasIPv4Header, HeadedIPv4, nibble, and_assoc]

theorem hasIPv6Header_iff (packet : Bytes) (versioned : OfVersion packet 6) :
    hasIPv6Header packet = true ↔ HeadedIPv6 packet := by
  simp [hasIPv6Header, HeadedIPv6, versioned]

/-! ## The line of a packet -/

theorem exists_suits (packet : Bytes) : ∃ kind : Kind, kind.Suits packet := by
  by_cases four : OfVersion packet 4
  · by_cases headed : HeadedIPv4 packet
    · exact ⟨.ipv4, headed⟩
    · exact ⟨.brokenIPv4, four, headed⟩
  · by_cases six : OfVersion packet 6
    · by_cases headed : HeadedIPv6 packet
      · exact ⟨.ipv6, headed⟩
      · exact ⟨.brokenIPv6, six, headed⟩
    · exact ⟨.other, four, six⟩

theorem line_ipv4 {packet : Bytes} (headed : HeadedIPv4 packet) :
    Line packet .ipv4 (summary packet) := by
  obtain ⟨first, head, nibble, long, _⟩ := id headed
  have versioned : OfVersion packet 4 := ⟨first, head, nibble⟩
  obtain ⟨protocol, shown, numbered⟩ := byteAt_hasAt (show 9 < packet.length by omega)
  have same : summary packet =
      s!"IPv4 {Address.ipv4 (slice packet 12 4)} → {Address.ipv4 (slice packet 16 4)}" ++
        s!" proto={protocol.toNat} {lengthText packet}" := by
    simp [summary, (version_eq_some packet 4).mpr versioned,
      (hasIPv4Header_iff packet versioned).mpr headed, shown, lengthText, String.append_assoc]
  rw [same]
  apply Line.ipv4
  · exact ⟨slice_length (by omega), slice_length (by omega)⟩
  · exact numbered
  · exact slice_hasAt (by omega)
  · exact slice_hasAt (by omega)

theorem line_ipv6 {packet : Bytes} (headed : HeadedIPv6 packet) :
    Line packet .ipv6 (summary packet) := by
  obtain ⟨versioned, long⟩ := id headed
  obtain ⟨next, shown, numbered⟩ := byteAt_hasAt (show 6 < packet.length by omega)
  have same : summary packet =
      s!"IPv6 {Address.ipv6 (slice packet 8 16)} → {Address.ipv6 (slice packet 24 16)}" ++
        s!" next={next.toNat} {lengthText packet}" := by
    simp [summary, (version_eq_some packet 6).mpr versioned,
      (hasIPv6Header_iff packet versioned).mpr headed, shown, lengthText, String.append_assoc]
  rw [same]
  apply Line.ipv6
  · exact ⟨slice_length (by omega), slice_length (by omega)⟩
  · exact numbered
  · exact slice_hasAt (by omega)
  · exact slice_hasAt (by omega)

theorem line_suited (packet : Bytes) (kind : Kind) (suits : kind.Suits packet) :
    Line packet kind (summary packet) := by
  cases kind with
  | ipv4 => exact line_ipv4 suits
  | ipv6 => exact line_ipv6 suits
  | brokenIPv4 =>
      obtain ⟨versioned, broken⟩ := suits
      have refused : hasIPv4Header packet = false :=
        Bool.eq_false_iff.mpr fun whole => broken ((hasIPv4Header_iff packet versioned).mp whole)
      have same : summary packet = s!"malformed IPv4 {lengthText packet}" := by
        simp [summary, (version_eq_some packet 4).mpr versioned, refused, lengthText]
      rw [same]
      exact .brokenIPv4
  | brokenIPv6 =>
      obtain ⟨versioned, broken⟩ := suits
      have refused : hasIPv6Header packet = false :=
        Bool.eq_false_iff.mpr fun whole => broken ((hasIPv6Header_iff packet versioned).mp whole)
      have same : summary packet = s!"malformed IPv6 {lengthText packet}" := by
        simp [summary, (version_eq_some packet 6).mpr versioned, refused, lengthText]
      rw [same]
      exact .brokenIPv6
  | other =>
      obtain ⟨notFour, notSix⟩ := suits
      have same : summary packet = s!"non-IP {lengthText packet}" := by
        unfold summary
        split
        · next four => exact absurd ((version_eq_some packet 4).mp four) notFour
        · next six => exact absurd ((version_eq_some packet 6).mp six) notSix
        · rfl
      rw [same]
      exact .other

/-! ## Lines told apart -/

def Kind.opening : Kind → String
  | .ipv4 => "IPv4 "
  | .ipv6 => "IPv6 "
  | .brokenIPv4 => "malformed IPv4 "
  | .brokenIPv6 => "malformed IPv6 "
  | .other => "non-IP "

theorem Line.opens {packet : Bytes} {kind : Kind} {text : String} (line : Line packet kind text) :
    kind.opening.toList <+: text.toList := by
  cases line <;> simp only [Kind.opening, toString, String.toList_append, List.append_assoc] <;>
    exact List.prefix_append _ _

theorem Kind.opening_apart (kind second : Kind)
    (front : kind.opening.toList <+: second.opening.toList) : kind = second := by
  revert front
  cases kind <;> cases second <;> decide

theorem Line.kind_eq {packet : Bytes} {kind second : Kind} {text : String}
    (line : Line packet kind text) (again : Line packet second text) : kind = second := by
  rcases List.prefix_or_prefix_of_prefix line.opens again.opens with front | front
  · exact Kind.opening_apart kind second front
  · exact (Kind.opening_apart second kind front).symm

theorem line_iff (packet : Bytes) (kind : Kind) :
    Line packet kind (summary packet) ↔ kind.Suits packet := by
  constructor
  · intro line
    obtain ⟨suited, suits⟩ := exists_suits packet
    exact line.kind_eq (line_suited packet suited suits) ▸ suits
  · exact line_suited packet kind

/-! ## Packets with a common front -/

section Fronts

variable {packet other : Bytes} {count : Nat} (front : other.take count = packet.take count)
include front

theorem slice_front {start length : Nat} (within : start + length ≤ count) :
    slice other start length = slice packet start length := by
  have cut (bytes : Bytes) : slice bytes start length = slice (bytes.take count) start length := by
    simp only [slice, List.drop_take, List.take_take]
    rw [Nat.min_eq_left (by omega)]
  rw [cut other, cut packet, front]

theorem byteAt_front {index : Nat} (within : index < count) :
    byteAt other index = byteAt packet index := by
  have cut (bytes : Bytes) : byteAt bytes index = byteAt (bytes.take count) index := by
    simp [byteAt, within]
  rw [cut other, cut packet, front]

theorem head_front (someBytes : 0 < count) : other.head? = packet.head? := by
  have cut (bytes : Bytes) : bytes.head? = (bytes.take count).head? := by
    rw [List.head?_take, if_neg (Nat.ne_of_gt someBytes)]
  rw [cut other, cut packet, front]

theorem hasIPv4Header_front (someBytes : 0 < count) (length : other.length = packet.length) :
    hasIPv4Header other = hasIPv4Header packet := by
  have head := head_front front someBytes
  cases packet with
  | nil => rw [List.eq_nil_of_length_eq_zero length]
  | cons first rest =>
      cases other with
      | nil => simp at length
      | cons byte later =>
          obtain rfl : byte = first := by simpa using head
          simp only [hasIPv4Header, length]

end Fronts

/-- The fixed header is all of a packet that its summary shows, besides the length. -/
theorem summary_front {packet other : Bytes} (length : other.length = packet.length)
    (front : other.take 40 = packet.take 40 ∨
      OfVersion packet 4 ∧ other.take 20 = packet.take 20) :
    summary other = summary packet := by
  have versions : version other = version packet := by
    rcases front with front | ⟨_, front⟩
    · rw [version, version, head_front front (by decide)]
    · rw [version, version, head_front front (by decide)]
  rcases front with front | ⟨versioned, front⟩
  · simp only [summary, versions, length, hasIPv6Header,
      hasIPv4Header_front front (by decide) length,
      slice_front front (show 12 + 4 ≤ 40 by decide),
      slice_front front (show 16 + 4 ≤ 40 by decide),
      slice_front front (show 8 + 16 ≤ 40 by decide),
      slice_front front (show 24 + 16 ≤ 40 by decide),
      byteAt_front front (show 9 < 40 by decide), byteAt_front front (show 6 < 40 by decide)]
    rfl
  · have four := (version_eq_some packet 4).mpr versioned
    simp only [summary, versions, four, length, hasIPv4Header_front front (by decide) length,
      slice_front front (show 12 + 4 ≤ 20 by decide),
      slice_front front (show 16 + 4 ≤ 20 by decide),
      byteAt_front front (show 9 < 20 by decide)]

/-- Every packet has a summary, of the kind its first bytes and its length decide: a
line of a kind is given exactly to the packets it suits, it shows fields that stand
in the packet, and its length. Nothing else of a packet is told: packets of one length
that have the first 40 bytes in common, or 20 for IPv4, have the same summary. -/
theorem summary_exact (packet : Bytes) :
    (∃ kind, Line packet kind (summary packet)) ∧
      (∀ kind, Line packet kind (summary packet) ↔ kind.Suits packet) ∧
      ∀ other : Bytes, other.length = packet.length →
        other.take 40 = packet.take 40 ∨ OfVersion packet 4 ∧ other.take 20 = packet.take 20 →
        summary other = summary packet := by
  obtain ⟨kind, suits⟩ := exists_suits packet
  constructor
  · exact ⟨kind, line_suited packet kind suits⟩
  · constructor
    · exact line_iff packet
    · intro other length front
      exact summary_front length front

/-- Two datagrams that differ in an option and in their payload have the same summary. -/
theorem summary_exact_optioned :
    let header : Bytes := [70, 0, 0, 26, 0, 0, 0, 0, 64, 17, 0, 0, 10, 0, 0, 2, 10, 0, 0, 1]
    let packet := header ++ [1, 1, 1, 0, 97, 98]
    let other := header ++ [7, 3, 4, 0, 99, 100]
    Line packet .ipv4 (summary packet) ∧ other ≠ packet ∧ summary other = summary packet := by
  intro header packet other
  obtain ⟨_, lines, fronts⟩ := summary_exact packet
  have headed : HeadedIPv4 packet := ⟨70, by decide⟩
  have versioned : OfVersion packet 4 := ⟨70, by decide⟩
  refine ⟨(lines .ipv4).mpr headed, by decide, ?_⟩
  exact fronts other (by decide) (.inr ⟨versioned, by decide⟩)

end PacketRelay.Packet
