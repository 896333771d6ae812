import Stencil.Error
import Stencil.Text.Split

/-!
Files and directories in memory, with times of modification. Main statements: a file that is written
reads back (`find?_put`), and other files stay as they are.
-/

namespace Stencil

inductive FileEntry where
  | file (content : ByteArray) (modified : Int)
  | directory (modified : Int)

/-- The names from an entry up to the root, the entry's own name first. -/
abbrev Place := List String

/-- Entries at their places, the place where relative paths start, and the time of the next write. -/
structure Files where
  entries : List (Place × FileEntry)
  working : Place
  clock : Int

namespace FileEntry

def modified : FileEntry → Int
  | file _ time => time
  | directory time => time

def touched (time : Int) : FileEntry → FileEntry
  | file content _ => file content time
  | directory _ => directory time

end FileEntry

namespace Files

def firstTime : Int :=
  1600000000

def empty : Files :=
  let working := ["work"]
  ⟨[(working, .directory firstTime), ([], .directory firstTime)], working, firstTime⟩

def find? (files : Files) (place : Place) : Option FileEntry :=
  files.entries.lookup place

def isDirectory (files : Files) (place : Place) : Bool :=
  match files.find? place with
  | some (.directory _) => true
  | _ => false

def put (files : Files) (place : Place) (entry : FileEntry) : Files :=
  { files with entries := (place, entry) :: files.entries.filter fun (p, _) => p != place }

def remove (files : Files) (place : Place) : Files :=
  { files with entries := files.entries.filter fun (p, _) => p != place }

def parts (path : String) : List String :=
  (Text.split '/' path.toList).map String.ofList

def isRooted (path : String) : Bool :=
  path.toList.head? == some '/'

def start (files : Files) (path : String) : Place :=
  if isRooted path then [] else files.working

def nameLimit : Nat :=
  255

def pathLimit : Nat :=
  4095

/-- A path that no file system takes is refused before any of its parts is looked at. -/
def checkPath (path : String) : Except FileFault Unit :=
  if path.toList.contains '\x00' then .error .nulInName
  else if pathLimit < path.utf8ByteSize then .error .nameTooLong
  else .ok ()

/-- The place that the parts of a path lead to. All but the last must be there. -/
def walk (files : Files) (place : Place) : List String → Except FileFault Place
  | [] => .ok place
  | part :: rest =>
    if files.isDirectory place then
      if part = "" || part = "." then files.walk place rest
      else if part = ".." then files.walk place.tail rest
      else if nameLimit < part.utf8ByteSize then .error .nameTooLong
      else if rest.isEmpty then .ok (part :: place)
      else files.walk (part :: place) rest
    else if (files.find? place).isSome then .error .notADirectory
    else .error .notFound

def locate (files : Files) (path : String) : Except FileFault Place := do
  checkPath path
  if path.isEmpty then .error .notFound else files.walk (files.start path) (parts path)

def entry (files : Files) (path : String) : Except FileFault FileEntry := do
  match files.find? (← files.locate path) with
  | some entry => return entry
  | none => .error .notFound

def modified? (files : Files) (path : String) : Option Int :=
  (files.entry path).toOption.map FileEntry.modified

def isFile (files : Files) (path : String) : Bool :=
  match files.entry path with
  | .ok (.file ..) => true
  | _ => false

def read (files : Files) (path : String) : Except FileFault String := do
  match ← files.entry path with
  | .directory _ => .error .isADirectory
  | .file content _ =>
    match String.fromUTF8? content with
    | some text => return text
    | none => .error .notText

def writeAt (files : Files) (path : String) (content : ByteArray) (time : Int) :
    Except FileFault Files := do
  let place ← files.locate path
  match files.find? place with
  | some (.directory _) => .error .isADirectory
  | _ => return files.put place (.file content time)

def write (files : Files) (path : String) (content : ByteArray) : Except FileFault Files :=
  (files.writeAt path content files.clock).map fun files => { files with clock := files.clock + 1 }

def makeParts (files : Files) (place : Place) : List String → Except FileFault Files
  | [] => .ok files
  | part :: rest =>
    if part = "" || part = "." then files.makeParts place rest
    else if part = ".." then files.makeParts place.tail rest
    else if nameLimit < part.utf8ByteSize then .error .nameTooLong
    else
      let next := part :: place
      if files.isDirectory next then files.makeParts next rest
      else if (files.find? next).isSome then
        .error (if rest.all (· = "") then .alreadyExists else .notADirectory)
      else (files.put next (.directory files.clock)).makeParts next rest

def makeDirectories (files : Files) (path : String) : Except FileFault Files := do
  checkPath path
  files.makeParts (files.start path) (parts path)

def removeFile (files : Files) (path : String) : Except FileFault Files := do
  let place ← files.locate path
  match files.find? place with
  | none => .error .notFound
  | some (.directory _) => .error .isADirectory
  | some (.file ..) => return files.remove place

def names (files : Files) (path : String) : Except FileFault (List String) := do
  let place ← files.locate path
  if files.isDirectory place then
    return (files.entries.filterMap fun (p, _) =>
      match p with
      | name :: parent => if parent = place then some name else none
      | [] => none).mergeSort
  else if (files.find? place).isSome then .error .notADirectory
  else .error .notFound

def parentPath (path : String) : String :=
  "/".intercalate (parts path).dropLast

def plant (files : Files) (path : String) (content : ByteArray) (time : Int) :
    Except FileFault Files := do
  (← files.makeDirectories (parentPath path)).writeAt path content time

def touch (files : Files) (path : String) (time : Int) : Except FileFault Files := do
  let place ← files.locate path
  match files.find? place with
  | some entry => return files.put place (entry.touched time)
  | none => .error .notFound

/-- The path of a name inside a directory. A name that starts at the root stands for itself. -/
def join (directory name : String) : String :=
  if isRooted name then name
  else if directory.isEmpty || directory.toList.getLast? == some '/' then directory ++ name
  else directory ++ "/" ++ name

/-- What follows the last dot of a name that does not begin with it. -/
def extension? (name : String) : Option String :=
  let tail := name.toList.reverse.takeWhile (· != '.')
  if tail.length + 1 < name.length then some (String.ofList tail.reverse) else none

theorem find?_put (files : Files) (place other : Place) (entry : FileEntry) :
    (files.put place entry).find? other =
      if other = place then some entry else files.find? other := by
  unfold put find?
  rw [List.lookup_cons]
  by_cases same : other = place
  · simp [same]
  · simp only [same, beq_eq_false_iff_ne.2 same, if_false]
    induction files.entries with
    | nil => rfl
    | cons head rest ih =>
      obtain ⟨p, e⟩ := head
      by_cases here : p = place
      · have passed : (other == p) = false := beq_eq_false_iff_ne.2 (here ▸ same)
        simp [here, List.lookup_cons, ih, beq_eq_false_iff_ne.2 same]
      · simp [here, List.lookup_cons, ih]

end Files

end Stencil
