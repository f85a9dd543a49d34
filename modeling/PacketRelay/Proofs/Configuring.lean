import PacketRelay.Proofs.Checks
import PacketRelay.Proofs.Fields
import PacketRelay.Proofs.Leftovers
import PacketRelay.Proofs.Lines
import PacketRelay.Settings.Load

/-!
Settings from files that are made of lines with a key and a value. Main statement: they
are the defaults with the fields that the lines write replaced, and then checked; the
first line that writes no field is what is complained about.
-/

namespace PacketRelay

open Document (Value Entries WritesLines)

theorem Document.WritesValue.flat {value : Value} {text : Document.Chars}
    (written : Document.WritesValue value text) : Settings.Flat value := by
  cases written with
  | array => exact .array _
  | scalar written =>
      cases written with
      | text => exact .text _
      | integer => exact .integer _
      | yes => exact .boolean true
      | no => exact .boolean false

theorem Document.WritesLines.flat {entries : Entries} {text : Document.Chars}
    (written : WritesLines entries text) : ∀ entry ∈ entries, Settings.Flat entry.2 := by
  induction written with
  | none trails => simp
  | idle trails ends later ih => exact ih
  | entry line ends later ih =>
      intro entry member
      rcases List.mem_cons.mp member with rfl | member
      · cases line with
        | entry named bare leads parts spaces written trails => exact written.flat
      · exact ih entry member

namespace Settings

def Stores (kernel : Kernel) (path text : String) : Prop :=
  kernel.files.read path = .ok text.toUTF8.data.toList

variable {entries : Entries} {text path : String} {kernel : Kernel}

theorem decodeFile_toUTF8 (text : String) : decodeFile text.toUTF8.data.toList = .ok text := by
  have decoded : String.fromUTF8? text.toUTF8 = some text := by
    rw [String.fromUTF8?, String.toUTF8_eq_toByteArray, dif_pos text.isValidUTF8]
    rfl
  unfold decodeFile
  split
  · next found =>
      cases decoded.symm.trans found
      rfl
  · next unread => cases decoded.symm.trans unread

theorem ofFile_eq (path : String) (files : Kernel.FileTree) :
    ofFile path files =
      match (files.read path).bind decodeFile with
      | .error cause => .error (.settingsFile path cause)
      | .ok text =>
          match parse text with
          | .error misread => .error (.settingsText path misread)
          | .ok settings => settings.checked := by
  unfold ofFile
  cases (files.read path).bind decodeFile with
  | error cause => rfl
  | ok text =>
      simp only [Except.mapError, bind, Except.bind]
      cases parse text with
      | error misread => rfl
      | ok settings => cases settings.check <;> rfl

/-- Loading makes settings of the entries of a text, and checks them. -/
theorem load_entries (stored : Stores kernel path text)
    (read : Document.parse? text = some entries) :
    (load path kernel).1 =
      match ofEntries entries with
      | .error misread => .error (.settingsText path misread)
      | .ok settings => settings.checked := by
  have opened : (kernel.files.read path).bind decodeFile = .ok text := by
    rw [stored]
    exact decodeFile_toUTF8 text
  have parsed : parse text = ofEntries entries := by
    rw [parse, read]
  rw [load, ofFile_eq, opened]
  simp only [parsed]

theorem load_fitting (stored : Stores kernel path text)
    (read : Document.parse? text = some entries) (distinct : (entries.map (·.1)).Nodup)
    (fits : ∀ entry ∈ entries, Fits entry) :
    ∃ settings, Replaces entries {} settings ∧
      (load path kernel).1 = settings.checked := by
  obtain ⟨changes, readChanges, replaced⟩ := readEntries_fits fits distinct {}
  refine ⟨_, replaced, ?_⟩
  have made : ofEntries entries = .ok (changes.foldl change {}) := by
    rw [ofEntries, readChanges]
    rfl
  rw [load_entries stored read, made]

theorem load_refused (stored : Stores kernel path text) {before after : Entries}
    {entry : String × Value} (read : Document.parse? text = some (before ++ entry :: after))
    (fits : ∀ other ∈ before, Fits other) (flat : Flat entry.2) (unfit : ¬ Fits entry) :
    ∃ misread, Complaint entry misread ∧
      (load path kernel).1 = .error (.settingsText path misread) := by
  obtain ⟨misread, complaint, refused⟩ := readEntry_refused flat unfit
  refine ⟨misread, complaint, ?_⟩
  have unmade : ofEntries (before ++ entry :: after) = .error misread := by
    rw [ofEntries, readEntries_refused fits refused after]
    rfl
  rw [load_entries stored read, unmade]

/-- Lines that all fit give the defaults with the fields that they write replaced, if these
settings are valid, and else the fault of the first check that they fail; the order of the
lines does not count. If some line does not fit, the first that does not is complained
about. -/
theorem load_written (written : WritesLines entries text.toList)
    (distinct : (entries.map (·.1)).Nodup) (stored : Stores kernel path text) :
    ((∀ entry ∈ entries, Fits entry) →
      ∃ settings, Replaces entries {} settings ∧
        ((load path kernel).1 = .ok settings ↔ Valid settings) ∧
        (¬ Valid settings → ∃ fault, Fails settings.checks fault ∧
          (load path kernel).1 = .error (.settings fault)) ∧
        ∀ (others : Entries) (text' path' : String) (kernel' : Kernel), others.Perm entries →
          WritesLines others text'.toList → Stores kernel' path' text' →
            (load path' kernel').1 = (load path kernel).1) ∧
      ∀ (before after : Entries) (entry : String × Value), entries = before ++ entry :: after →
        (∀ other ∈ before, Fits other) → ¬ Fits entry →
          ∃ misread, Complaint entry misread ∧
            (load path kernel).1 = .error (.settingsText path misread) := by
  have read := Document.parse?_written written distinct
  constructor
  · intro fits
    obtain ⟨settings, replaced, loaded⟩ := load_fitting stored read distinct fits
    refine ⟨settings, replaced, ?_, ?_, ?_⟩
    · rw [loaded]
      rcases settings.valid_or_fails with valid | ⟨fault, fails⟩
      · simp [checked_valid valid, valid]
      · have invalid : ¬ Valid settings := fails.not_passed
        simp [checked_fails fails, invalid]
    · intro invalid
      obtain ⟨fault, fails⟩ := settings.valid_or_fails.resolve_left invalid
      exact ⟨fault, fails, loaded.trans (checked_fails fails)⟩
    · intro others text' path' kernel' same written' stored'
      have distinct' : (others.map (·.1)).Nodup := (same.map _).nodup_iff.mpr distinct
      have fits' : ∀ entry ∈ others, Fits entry :=
        fun entry member => fits entry (same.mem_iff.mp member)
      obtain ⟨settings', replaced', loaded'⟩ :=
        load_fitting stored' (Document.parse?_written written' distinct') distinct' fits'
      have alike : settings' = settings := (replaced'.perm same).unique fits replaced
      rw [loaded, loaded', alike]
  · rintro before after entry rfl fits unfit
    exact load_refused stored read fits (written.flat entry (by simp)) unfit

/-- A file of two lines gives the defaults with two fields replaced. -/
theorem load_written_named :
    let text := "socket_mode = 0o600 # owner\ntun_name = 'vpn1'"
    let kernel : Kernel := { files := ⟨[(["s"], .file text.toUTF8.data.toList)]⟩ }
    (load "s" kernel).1 = .ok { tunnelName := "vpn1", socketMode := 384 } := by
  intro text kernel
  have space : Document.Blank [' '] := by simp [Document.Blank]
  have nothing : Document.Blank [] := by simp [Document.Blank]
  have mode : Document.WritesEntry ("socket_mode", .integer 384)
      ([] ++ ("socket_mode".toList ++ ([' '] ++ '=' :: ([' '] ++ ("0o600".toList ++
        ([' '] ++ '#' :: " owner".toList)))))) := by
    have digits : Document.Numeral 8 ['6', '0', '0'] [6, 0, 0] :=
      .next (by decide) (by decide) (.next (by decide) (by decide) (.last (by decide) (by decide)))
    have tail : Document.Tail ([' '] ++ '#' :: " owner".toList) :=
      .comment space (by simp [Document.Plain])
    exact .entry (by decide) (Document.each (by decide)) nothing space space
      (.scalar (.integer (.based .octal digits) (by decide))) tail
  have name : Document.WritesEntry ("tun_name", .text "vpn1")
      ([] ++ ("tun_name".toList ++ ([' '] ++ '=' :: ([' '] ++ ("'vpn1'".toList ++ []))))) := by
    have literal : Document.WritesText "vpn1" "'vpn1'".toList :=
      .literal (show ∀ c ∈ "vpn1".toList, _ by simp [Document.Plain])
    exact .entry (by decide) (Document.each (by decide)) nothing space space
      (.scalar (.text literal)) (.blank nothing)
  have written : WritesLines [("socket_mode", .integer 384), ("tun_name", .text "vpn1")]
      text.toList := by
    simpa [text] using
      WritesLines.entry mode (.line .feed) (.entry name .nothing (.none (.blank nothing)))
  have stored : Stores kernel "s" text := by
    simp [Stores, Kernel.FileTree.read, resolve_single, Kernel.FileTree.find?, kernel]
  have fits : ∀ entry ∈ [("socket_mode", .integer 384), ("tun_name", .text "vpn1")],
      Fits entry := by
    simp only [List.forall_mem_cons, List.not_mem_nil, false_imp_iff, implies_true, and_true]
    exact ⟨⟨_, .socketMode, (384 : Nat), rfl, rfl, by decide⟩, ⟨_, .tunnelName, "vpn1", rfl, rfl⟩⟩
  obtain ⟨settings, replaced, loaded, _⟩ := (load_written written (by decide) stored).1 fits
  obtain rfl : settings = { tunnelName := "vpn1", socketMode := 384 } := by
    apply Field.ext
    intro kind field
    obtain ⟨written, kept⟩ := replaced kind field
    cases field with
    | tunnelName => exact written _ "vpn1" (by simp [Field.key]) rfl
    | socketMode => exact written _ (384 : Nat) (by simp [Field.key]) ⟨rfl, by decide⟩
    | _ => exact kept (by decide)
  exact loaded.mpr ((check_ok_iff _).mp (by decide))

end Settings
end PacketRelay
