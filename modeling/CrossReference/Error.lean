import CrossReference.ElementId
import CrossReference.Parse.Fault

set_option autoImplicit false

/-!
# Errors

Everything that can go wrong, by cause. The wording of each cause is in one place, so that what is
shown never decides what is done.
-/
namespace CrossReference

inductive FileFault
  | notFound
  | notText
  | isDirectory
  | notDirectory
  | nameTooLong
  | strayNul
deriving DecidableEq, Repr

def FileFault.describe : FileFault → String
  | .notFound => "No such file or directory"
  | .notText => "stream did not contain valid UTF-8"
  | .isDirectory => "Is a directory"
  | .notDirectory => "Not a directory"
  | .nameTooLong => "File name too long"
  | .strayNul => "file name contained an unexpected NUL byte"

inductive SettingsFault
  | unknownRelation (name : String)
  | alreadyExists (path : String)
  | malformed (path : String)
  | numberTooLarge
deriving DecidableEq, Repr

def SettingsFault.describe : SettingsFault → String
  | .unknownRelation name => "Unknown relation kind: " ++ name
  | .alreadyExists path => "config already exists at " ++ path ++ " (use --force to overwrite)"
  | .malformed path => path
  | .numberTooLarge => "out-of-range value for u64 type"

inductive Error
  | parse (fault : SyntaxFault)
  | invalidId (fault : IdFault) (id : String)
  | file (fault : FileFault)
  | serialization
  | settings (fault : SettingsFault)
  /-- A shape names an element outside its tree. No source gives rise to it. -/
  | outsideTree
deriving DecidableEq, Repr

def Error.message : Error → String
  | .parse fault => "Parse error: " ++ fault.describe
  | .invalidId fault id => "Invalid element id: " ++ fault.describe id
  | .file fault => "IO error: " ++ fault.describe
  | .serialization => "Serialization error"
  | .settings fault => "Config error: " ++ fault.describe
  | .outsideTree => "Element outside the tree"

namespace ElementId

def read (text : String) : Except Error ElementId :=
  (parse text).mapError fun fault => .invalidId fault text

def readSpan (text : String) : Except Error Span :=
  (spanOf text).mapError fun fault => .invalidId fault text

end ElementId
end CrossReference
