import PacketRelay.Document.Reader
import PacketRelay.Kernel.Basic
import PacketRelay.Settings.Reading

/-!
Settings from a file: the defaults, changed as the file says, and then checked.
-/

namespace PacketRelay.Settings

def decodeFile (content : Bytes) : Except IoError String :=
  match String.fromUTF8? ⟨content.toArray⟩ with
  | some text => .ok text
  | none => .error .notUtf8

def parse (text : String) : Except Misread Settings :=
  match Document.parse? text with
  | some entries => ofEntries entries
  | none => .error .malformed

def ofFile (path : String) (files : Kernel.FileTree) : Except Failure Settings := do
  let text ← ((files.read path).bind decodeFile).mapError (.settingsFile path)
  let settings ← (parse text).mapError (.settingsText path)
  settings.check.mapError .settings
  return settings

def load (path : String) (kernel : Kernel) : Except Failure Settings × Kernel :=
  (ofFile path kernel.files, kernel.note (.loadingSettings path))

end PacketRelay.Settings
