import Mathlib.Algebra.Group.Nat.Defs
import Mathlib.Algebra.Ring.Int.Defs
import PacketRelay.Settings.Reading

/-!
The fields of settings: the keys they are written under, the values they take, and what
a change of one leaves of the others. Main statement: entries that fit give the defaults
with exactly the fields that they write replaced, and the first entry that does not fit
is what is complained about.
-/

namespace PacketRelay.Settings

open Document (Value Entries)

inductive Kind where
  | text
  | number
  | mode

abbrev Kind.Held : Kind → Type
  | .text => String
  | .number => Nat
  | .mode => ReadMode

inductive Field : Kind → Type where
  | tunnelName : Field .text
  | socketPath : Field .text
  | logLevel : Field .text
  | socketMode : Field .number
  | socketBufferSize : Field .number
  | pollTimeout : Field .number
  | readBudget : Field .number
  | readMode : Field .mode

def modeName : ReadMode → String
  | .drain => "drain"
  | .single => "single"

namespace Field

variable {kind other : Kind}

def key : Field kind → String
  | .tunnelName => "tun_name"
  | .socketPath => "socket_path"
  | .socketMode => "socket_mode"
  | .socketBufferSize => "socket_buffer_size"
  | .pollTimeout => "poll_timeout_ms"
  | .readMode => "device_read_mode"
  | .readBudget => "client_read_budget"
  | .logLevel => "log_level"

def get (settings : Settings) : Field kind → kind.Held
  | .tunnelName => settings.tunnelName
  | .socketPath => settings.socketPath
  | .socketMode => settings.socketMode
  | .socketBufferSize => settings.socketBufferSize
  | .pollTimeout => settings.pollTimeout
  | .readMode => settings.readMode
  | .readBudget => settings.readBudget
  | .logLevel => settings.logLevel

def change : Field kind → kind.Held → Change
  | .tunnelName => .tunnelName
  | .socketPath => .socketPath
  | .socketMode => .socketMode
  | .socketBufferSize => .socketBufferSize
  | .pollTimeout => .pollTimeout
  | .readMode => .readMode
  | .readBudget => .readBudget
  | .logLevel => .logLevel

def bits : Field .number → Nat
  | .socketMode => 32
  | .socketBufferSize => 64
  | .pollTimeout => 16
  | .readBudget => 64

def textual : Field .text → Expected
  | .tunnelName | .logLevel => .text
  | .socketPath => .path

def numeric : Field .number → Expected
  | .socketMode => .mode
  | .socketBufferSize | .readBudget => .size
  | .pollTimeout => .timeout

def Takes : {kind : Kind} → Field kind → Value → kind.Held → Prop
  | .text, _, value, text => value = .text text
  | .number, field, value, number => value = .integer number ∧ number < 2 ^ field.bits
  | .mode, _, value, mode => value = .text (modeName mode)

end Field

def Fits (entry : String × Value) : Prop :=
  ∃ (kind : Kind) (field : Field kind) (held : kind.Held),
    field.key = entry.1 ∧ field.Takes entry.2 held

inductive Flat : Value → Prop
  | text (value : String) : Flat (.text value)
  | integer (value : Int) : Flat (.integer value)
  | boolean (value : Bool) : Flat (.boolean value)
  | array (items : List Value) : Flat (.array items)

inductive Complaint : String × Value → Misread → Prop
  | unknownKey {key : String} {value : Value} (unknown : key ∉ keys) :
      Complaint (key, value) (.unknownKey key)
  | notText (field : Field .text) {value : Value} (other : ∀ text, value ≠ .text text) :
      Complaint (field.key, value) (.wrongType value.found field.textual)
  | notInteger (field : Field .number) {value : Value} (other : ∀ number, value ≠ .integer number) :
      Complaint (field.key, value) (.wrongType value.found field.numeric)
  | outOfRange (field : Field .number) {number : Int}
      (beyond : number < 0 ∨ 2 ^ field.bits ≤ number) :
      Complaint (field.key, .integer number) (.outOfRange number field.numeric)
  | unknownReadMode {name : String} (unknown : ∀ mode, name ≠ modeName mode) :
      Complaint (Field.readMode.key, .text name) (.unknownReadMode name)
  | notReadMode {value : Value} (flat : Flat value) (other : ∀ text, value ≠ .text text) :
      Complaint (Field.readMode.key, value) .notStringOrTable

/-- Settings that hold what entries write, and else what others hold. -/
def Replaces (entries : Entries) (base settings : Settings) : Prop :=
  ∀ (kind : Kind) (field : Field kind),
    (∀ value held, (field.key, value) ∈ entries → field.Takes value held →
      field.get settings = held) ∧
    (field.key ∉ entries.map (·.1) → field.get settings = field.get base)

/-! ## Fields -/

namespace Field

variable {kind other : Kind} {value : Value}

theorem mem_keys (key : String) :
    key ∈ keys ↔ ∃ (kind : Kind) (field : Field kind), field.key = key := by
  constructor
  · intro listed
    simp only [keys, List.mem_cons, List.not_mem_nil, or_false] at listed
    rcases listed with rfl | rfl | rfl | rfl | rfl | rfl | rfl | rfl
    · exact ⟨_, .tunnelName, rfl⟩
    · exact ⟨_, .socketPath, rfl⟩
    · exact ⟨_, .socketMode, rfl⟩
    · exact ⟨_, .socketBufferSize, rfl⟩
    · exact ⟨_, .pollTimeout, rfl⟩
    · exact ⟨_, .readMode, rfl⟩
    · exact ⟨_, .readBudget, rfl⟩
    · exact ⟨_, .logLevel, rfl⟩
  · rintro ⟨kind, field, rfl⟩
    cases field <;> simp [key, keys]

theorem eq_of_key {field : Field kind} {rival : Field other} (same : field.key = rival.key) :
    (⟨kind, field⟩ : Σ kind, Field kind) = ⟨other, rival⟩ := by
  cases field <;> cases rival <;> simp_all [key]

theorem get_change (field : Field kind) (settings : Settings) (held : kind.Held) :
    field.get (settings.change (field.change held)) = held := by
  cases field <;> rfl

theorem get_change_ne {field : Field kind} {rival : Field other}
    (different : rival.key ≠ field.key) (settings : Settings) (held : kind.Held) :
    rival.get (settings.change (field.change held)) = rival.get settings := by
  cases field <;> cases rival <;> simp_all [key, get, change, Settings.change]

theorem ext {settings others : Settings}
    (same : ∀ (kind : Kind) (field : Field kind), field.get settings = field.get others) :
    settings = others := by
  cases settings
  cases others
  congr 1
  · exact same _ .tunnelName
  · exact same _ .socketPath
  · exact same _ .socketMode
  · exact same _ .socketBufferSize
  · exact same _ .pollTimeout
  · exact same _ .readMode
  · exact same _ .readBudget
  · exact same _ .logLevel

/-! ### Reading a value -/

theorem readEntry_text (field : Field .text) (value : Value) :
    readEntry field.key value = field.change <$> readText field.textual value := by
  cases field <;> rfl

theorem readEntry_number (field : Field .number) (value : Value) :
    readEntry field.key value = field.change <$> readNumber field.numeric value := by
  cases field <;> rfl

theorem readEntry_mode (value : Value) :
    readEntry Field.readMode.key value = Field.readMode.change <$> readReadMode value := by
  rfl

theorem largest_numeric (field : Field .number) : field.numeric.largest + 1 = 2 ^ field.bits := by
  cases field <;> rfl

theorem readEntry_takes {field : Field kind} {held : kind.Held} (takes : field.Takes value held) :
    readEntry field.key value = .ok (field.change held) := by
  cases kind with
  | text =>
      obtain rfl := takes
      exact field.readEntry_text _
  | number =>
      obtain ⟨rfl, fits⟩ := takes
      have largest := field.largest_numeric
      have inside (number : Nat) (fits : number < 2 ^ field.bits) :
          0 ≤ (number : Int) ∧ (number : Int) ≤ field.numeric.largest := by
        omega
      rw [field.readEntry_number, readNumber, if_pos (inside held fits)]
      rfl
  | mode =>
      obtain rfl := takes
      cases field
      cases held <;> rfl

end Field

theorem readEntry_unknown {key : String} (unknown : key ∉ keys) (value : Value) :
    readEntry key value = .error (.unknownKey key) := by
  unfold readEntry
  split
  case h_9 => rfl
  all_goals exact absurd (by decide) unknown

theorem readText_refused {expected : Expected} {value : Value}
    (other : ∀ text, value ≠ .text text) :
    readText expected value = .error (.wrongType value.found expected) := by
  cases value with
  | text value => exact absurd rfl (other value)
  | _ => rfl

theorem readNumber_refused {expected : Expected} {value : Value}
    (other : ∀ number, value ≠ .integer number) :
    readNumber expected value = .error (.wrongType value.found expected) := by
  cases value with
  | integer value => exact absurd rfl (other value)
  | _ => rfl

theorem Field.outOfRange (field : Field .number) {number : Int}
    (unfit : ∀ held, ¬ field.Takes (.integer number) held) :
    (number < 0 ∨ 2 ^ field.bits ≤ number) ∧
      readNumber field.numeric (.integer number) = .error (.outOfRange number field.numeric) := by
  have largest := field.largest_numeric
  have power : ((2 ^ field.bits : Nat) : Int) = 2 ^ field.bits := by simp
  have beyond : number < 0 ∨ 2 ^ field.bits ≤ number := by
    apply Decidable.byContradiction
    intro inside
    have whole : (number.toNat : Int) = number := by omega
    refine unfit number.toNat ⟨by rw [whole], ?_⟩
    change number.toNat < 2 ^ field.bits
    omega
  refine ⟨beyond, ?_⟩
  rw [readNumber, if_neg (by omega)]

theorem readModeNamed_unknown {name : String} (unknown : ∀ mode, name ≠ modeName mode) :
    readModeNamed name = .error (.unknownReadMode name) := by
  have noDrain : name ≠ "drain" := unknown .drain
  have noSingle : name ≠ "single" := unknown .single
  rw [readModeNamed, if_neg noDrain, if_neg noSingle]

theorem readReadMode_refused {value : Value} (flat : Flat value)
    (other : ∀ text, value ≠ .text text) : readReadMode value = .error .notStringOrTable := by
  cases flat with
  | text value => exact absurd rfl (other value)
  | _ => rfl

theorem Field.refused {kind : Kind} (field : Field kind) {value : Value} (flat : Flat value)
    (unfit : ∀ held, ¬ field.Takes value held) :
    ∃ misread, Complaint (field.key, value) misread ∧
      readEntry field.key value = .error misread := by
  cases kind with
  | text =>
      refine ⟨_, .notText field unfit, ?_⟩
      rw [field.readEntry_text, readText_refused unfit]
      rfl
  | number =>
      by_cases integral : ∃ number, value = .integer number
      · obtain ⟨number, rfl⟩ := integral
        obtain ⟨beyond, refused⟩ := field.outOfRange unfit
        refine ⟨_, .outOfRange field beyond, ?_⟩
        rw [field.readEntry_number, refused]
        rfl
      · have other : ∀ number, value ≠ .integer number := by
          simpa using integral
        refine ⟨_, .notInteger field other, ?_⟩
        rw [field.readEntry_number, readNumber_refused other]
        rfl
  | mode =>
      cases field
      by_cases textual : ∃ text, value = .text text
      · obtain ⟨name, rfl⟩ := textual
        have unknown : ∀ mode, name ≠ modeName mode := by
          rintro mode rfl
          exact unfit mode rfl
        refine ⟨_, .unknownReadMode unknown, ?_⟩
        rw [readEntry_mode, readReadMode, readModeNamed_unknown unknown]
        rfl
      · have other : ∀ text, value ≠ .text text := by
          simpa using textual
        refine ⟨_, .notReadMode flat other, ?_⟩
        rw [readEntry_mode, readReadMode_refused flat other]
        rfl

theorem readEntry_refused {entry : String × Value} (flat : Flat entry.2) (unfit : ¬ Fits entry) :
    ∃ misread, Complaint entry misread ∧ readEntry entry.1 entry.2 = .error misread := by
  obtain ⟨key, value⟩ := entry
  by_cases listed : key ∈ keys
  · obtain ⟨kind, field, rfl⟩ := (Field.mem_keys key).mp listed
    exact field.refused flat fun held takes => unfit ⟨kind, field, held, rfl, takes⟩
  · exact ⟨_, .unknownKey listed, readEntry_unknown listed value⟩

/-! ## Reading entries -/

theorem Fits.read {entry : String × Value} (fits : Fits entry) :
    ∃ (kind : Kind) (field : Field kind) (held : kind.Held), field.key = entry.1 ∧
      field.Takes entry.2 held ∧ readEntry entry.1 entry.2 = .ok (field.change held) := by
  obtain ⟨kind, field, held, keyed, takes⟩ := fits
  refine ⟨kind, field, held, keyed, takes, ?_⟩
  rw [← keyed]
  exact field.readEntry_takes takes

theorem Field.Takes.unique {kind : Kind} {field : Field kind} {value : Value}
    {held rival : kind.Held} (takes : field.Takes value held)
    (also : field.Takes value rival) : held = rival := by
  have one := field.readEntry_takes takes
  have two := field.readEntry_takes also
  rw [one] at two
  cases field <;> cases two <;> rfl

theorem readEntries_cons {entry : String × Value} {change : Change}
    (read : readEntry entry.1 entry.2 = .ok change) (later : Entries) :
    readEntries (entry :: later) = (change :: ·) <$> readEntries later := by
  rw [readEntries, read]
  rfl

theorem readEntries_refused {before : Entries} (fits : ∀ entry ∈ before, Fits entry)
    {entry : String × Value} {misread : Misread}
    (refused : readEntry entry.1 entry.2 = .error misread) (after : Entries) :
    readEntries (before ++ entry :: after) = .error misread := by
  induction before with
  | nil =>
      rw [List.nil_append, readEntries, refused]
      rfl
  | cons first later ih =>
      obtain ⟨kind, field, held, keyed, takes, read⟩ := (fits first List.mem_cons_self).read
      have laterFits : ∀ entry ∈ later, Fits entry :=
        fun e member => fits e (List.mem_cons_of_mem first member)
      rw [List.cons_append, readEntries_cons read, ih laterFits]
      rfl

/-- Entries that fit, of different keys, are read as changes that replace their fields. -/
theorem readEntries_fits {entries : Entries} (fits : ∀ entry ∈ entries, Fits entry)
    (distinct : (entries.map (·.1)).Nodup) (base : Settings) :
    ∃ changes, readEntries entries = .ok changes ∧
      Replaces entries base (changes.foldl change base) := by
  induction entries generalizing base with
  | nil =>
      refine ⟨[], rfl, fun kind field => ⟨?_, fun _ => rfl⟩⟩
      intro value held member
      cases member
  | cons first later ih =>
      obtain ⟨kind, field, held, keyed, takes, read⟩ := (fits first List.mem_cons_self).read
      rw [List.map_cons, List.nodup_cons] at distinct
      obtain ⟨changes, readLater, replaced⟩ :=
        ih (fun e member => fits e (List.mem_cons_of_mem first member)) distinct.2
          (base.change (field.change held))
      refine ⟨field.change held :: changes, ?_, ?_⟩
      · rw [readEntries_cons read, readLater]
        rfl
      · intro other rival
        obtain ⟨written, kept⟩ := replaced other rival
        constructor
        · intro value wanted member rivalTakes
          rcases List.mem_cons.mp member with rfl | member
          · cases Field.eq_of_key keyed
            cases takes.unique rivalTakes
            rw [List.foldl_cons, kept distinct.1]
            exact field.get_change base held
          · exact written value wanted member rivalTakes
        · intro absent
          rw [List.map_cons, List.mem_cons, not_or] at absent
          rw [List.foldl_cons, kept absent.2]
          exact Field.get_change_ne (by rw [keyed]; exact absent.1) base held

/-- Which settings replace the fields of others is settled by the entries. -/
theorem Replaces.unique {entries : Entries} {base settings others : Settings}
    (fits : ∀ entry ∈ entries, Fits entry) (replaced : Replaces entries base settings)
    (also : Replaces entries base others) : settings = others := by
  apply Field.ext
  intro kind field
  obtain ⟨written, kept⟩ := replaced kind field
  obtain ⟨alsoWritten, alsoKept⟩ := also kind field
  by_cases present : field.key ∈ entries.map (·.1)
  · obtain ⟨entry, member, keyed⟩ := List.mem_map.mp present
    obtain ⟨other, rival, held, rivalKeyed, takes⟩ := fits entry member
    cases Field.eq_of_key (rivalKeyed.trans keyed)
    have entered : (field.key, entry.2) ∈ entries := by
      rwa [← keyed]
    rw [written _ held entered takes, alsoWritten _ held entered takes]
  · rw [kept present, alsoKept present]

theorem Replaces.perm {entries others : Entries} {base settings : Settings}
    (same : entries.Perm others) (replaced : Replaces entries base settings) :
    Replaces others base settings := by
  intro kind field
  obtain ⟨written, kept⟩ := replaced kind field
  constructor
  · intro value held member takes
    exact written value held (same.mem_iff.mpr member) takes
  · intro absent
    exact kept fun present => absent ((same.map _).mem_iff.mp present)

end PacketRelay.Settings
