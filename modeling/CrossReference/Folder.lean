import CrossReference.Error
import CrossReference.Text.Split

set_option autoImplicit false

/-!
# Folders

A folder as a value: what is at each place, seen from the folder. A path is followed part by part,
and each part is looked for in a directory; so a slash or a dot at the end asks for a directory.
-/
namespace CrossReference

def Text.ofBytes? (bytes : ByteArray) : Option String := String.fromUTF8? bytes

namespace Folder

/-- The names on the way to a place. A way that starts elsewhere begins with a slash, if it starts
    at the root of all folders, or with dots that lead out of the folder. -/
abbrev Place := List String

def rootPlace : Place := ["/"]

/-- The folder itself, the folders around it and the root of all are directories. -/
def isGround (p : Place) : Bool := p = rootPlace || p.all (· = "..")

def partsOf (path : String) : List String := (Text.parts '/' path.toList).map String.ofList

def staysHere (part : String) : Bool := part = "" || part = "."

def startOf (path : String) : Place := if path.toList.head? = some '/' then rootPlace else []

def namesOf (path : String) : Place :=
  startOf path ++ (partsOf path).filter fun part => !staysHere part

inductive Content
  | file (bytes : ByteArray)
  | directory

def outward (p : Place) : Place :=
  if p = rootPlace then p else if isGround p then p ++ [".."] else p.dropLast

end Folder

structure Folder where
  entries : List (Folder.Place × Folder.Content)

namespace Folder

def empty : Folder := ⟨[]⟩

def at? (f : Folder) (p : Place) : Option Content :=
  if isGround p then some .directory else f.entries.lookup p

def nameLimit : Nat := 255

def pathLimit : Nat := 4095

def pathFault? (path : String) : Option FileFault :=
  if path.toList.contains '\x00' then some .strayNul
  else if path = "" then some .notFound
  else if pathLimit < path.utf8ByteSize then some .nameTooLong
  else none

def follow (f : Folder) (here : Place) : List String → Except FileFault Place
  | [] => .ok here
  | part :: rest =>
    match f.at? here with
    | none => .error .notFound
    | some (.file _) => .error .notDirectory
    | some .directory =>
      if staysHere part then f.follow here rest
      else if part = ".." then f.follow (outward here) rest
      else if nameLimit < part.utf8ByteSize then .error .nameTooLong
      else f.follow (here ++ [part]) rest

/-- The place that a path leads to. There may be nothing at it yet. -/
def locate (f : Folder) (path : String) : Except FileFault Place :=
  match pathFault? path with
  | some fault => .error fault
  | none => f.follow (startOf path) (partsOf path)

def lookup (f : Folder) (path : String) : Except FileFault Content :=
  match f.locate path with
  | .error fault => .error fault
  | .ok here =>
    match f.at? here with
    | some content => .ok content
    | none => .error .notFound

def has (f : Folder) (path : String) : Bool :=
  match f.lookup path with
  | .ok _ => true
  | .error _ => false

def readBytes (f : Folder) (path : String) : Except FileFault ByteArray :=
  match f.lookup path with
  | .ok (.file bytes) => .ok bytes
  | .ok .directory => .error .isDirectory
  | .error fault => .error fault

def readText (f : Folder) (path : String) : Except FileFault String :=
  match f.readBytes path with
  | .error fault => .error fault
  | .ok bytes =>
    match Text.ofBytes? bytes with
    | some text => .ok text
    | none => .error .notText

def put (f : Folder) (p : Place) (c : Content) : Folder :=
  ⟨(p, c) :: f.entries.filter fun e => e.1 ≠ p⟩

def endsInSlash (path : String) : Bool := (partsOf path).getLast? = some ""

def partsToWrite (path : String) : List String :=
  ((partsOf path).reverse.dropWhile (· = "")).reverse

/-- The place that a file is written to: the directory it goes into has to be there, and nothing is
    looked for behind it if the path asks for a directory. -/
def locateToWrite (f : Folder) (path : String) : Except FileFault Place :=
  match pathFault? path with
  | some fault => .error fault
  | none =>
    let parts := partsToWrite path
    if endsInSlash path then
      match f.follow (startOf path) (parts.dropLast ++ [""]) with
      | .error fault => .error fault
      | .ok _ => .error .isDirectory
    else f.follow (startOf path) parts

/-- Writes a file. What it comes to, and the folder it leaves. -/
def write (f : Folder) (path : String) (bytes : ByteArray) : Except FileFault Unit × Folder :=
  match f.locateToWrite path with
  | .error fault => (.error fault, f)
  | .ok here =>
    match f.at? here with
    | some .directory => (.error .isDirectory, f)
    | _ => (.ok (), f.put here (.file bytes))

def makeWay (f : Folder) (here : Place) : List String → Folder
  | [] => f
  | name :: rest =>
    let next := here ++ [name]
    makeWay (if (f.at? next).isSome then f else f.put next .directory) next rest

def makeDirectory (f : Folder) (path : String) : Folder := f.makeWay [] (namesOf path)

def place (f : Folder) (path : String) (bytes : ByteArray) : Folder :=
  let p := namesOf path
  (f.makeWay [] p.dropLast).put p (.file bytes)

def remove (f : Folder) (path : String) : Folder := ⟨f.entries.filter fun e => e.1 ≠ namesOf path⟩

theorem at?_put (f : Folder) (p q : Place) (c : Content) (h : isGround p = false) :
    (f.put p c).at? q = if q = p then some c else f.at? q := by
  unfold at? put
  by_cases eq : q = p
  · subst eq; simp [h]
  · simp only [eq, if_false]
    split
    · rfl
    · rw [List.lookup_cons]
      have : (q == p) = false := by simpa using eq
      simp only [this]
      induction f.entries with
      | nil => rfl
      | cons e rest ih => grind

end Folder
end CrossReference
