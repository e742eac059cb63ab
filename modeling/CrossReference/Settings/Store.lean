import CrossReference.Folder
import CrossReference.Toml.Forms

set_option autoImplicit false

/-!
# Stored settings

Settings are kept in a file. Where there is none, the defaults hold; where there is one, it is not
overwritten unless that is asked for.
-/
namespace CrossReference.Settings

def defaultPath : String := "refgraph.toml"

def load (folder : Folder) (path : String) : Except Error Settings :=
  if folder.has path then
    match folder.readText path with
    | .error fault => .error (.file fault)
    | .ok text =>
      match parse? text with
      | some settings => .ok settings
      | none => .error (.settings (.malformed path))
  else .ok {}

/-- Stores settings. What it comes to, and the folder it leaves. -/
def save (folder : Folder) (path : String) (settings : Settings) (force : Bool) :
    Except Error Unit × Folder :=
  if folder.has path && !force then (.error (.settings (.alreadyExists path)), folder)
  else match settings.write? with
    | none => (.error (.settings .numberTooLarge), folder)
    | some text => (folder.write path text.toUTF8).map (Except.mapError Error.file) id

end CrossReference.Settings
