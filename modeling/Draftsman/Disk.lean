/-
# Draftsman.Disk -- files and folders

A disk holds a file or a folder at some of its places; the top is always a folder.
Looking below a file finds nothing.

* `Disk.find?` reads a place, `Disk.put` and `Disk.remove` write one;
* `Disk.reach` goes to a place from the top down, and `Disk.exists?` looks for it;
* `Disk.writeFile` opens a file, which empties it, and then writes its text, and
  `Disk.makeFolders` makes a folder with all that are missing on the way.  When one of
  them fails it says why, and what is left on the disk.
-/
import Draftsman.FilePath
import Draftsman.Failure
import Draftsman.Text.Quoted

namespace Draftsman

set_option autoImplicit false

inductive Entry where
  | folder
  | file (text : String)
  deriving DecidableEq, Repr, Inhabited

/-- The files and folders below the top. -/
structure Disk where
  entries : List (FilePath × Entry)
  deriving Repr, Inhabited

inductive DiskFault where
  /-- A file stands where a folder is to be made. -/
  | occupied (path : FilePath)
  /-- A folder on the way is missing. -/
  | missing
  /-- A folder stands where a file is to be written. -/
  | isFolder
  /-- A file stands on the way. -/
  | notFolder
  /-- A name is too long, or the text of a place as a whole. -/
  | tooLong
  /-- The top is to be replaced. -/
  | busy
  /-- The text has no bytes. -/
  | unencodable (found : Text.Unencodable)
  deriving DecidableEq, Repr

def DiskFault.failure : DiskFault → Failure
  | occupied path => ⟨.fileExists, "[Errno 17] File exists: " ++ Text.quoted path.text⟩
  | missing => ⟨.fileMissing, ""⟩
  | isFolder => ⟨.isDirectory, ""⟩
  | notFolder => ⟨.notDirectory, ""⟩
  | tooLong | busy => ⟨.refused, ""⟩
  | unencodable found => ⟨.unencodable, found.message⟩

namespace Disk

def find? (disk : Disk) (path : FilePath) : Option Entry :=
  if path = [] then some .folder else disk.entries.lookup path

def holds (disk : Disk) (path : FilePath) : Bool := (disk.find? path).isSome

def isFolder (disk : Disk) (path : FilePath) : Bool := disk.find? path == some .folder

/-- Puts an entry at the end of a list, or in the place of an entry of its path. -/
def putIn (path : FilePath) (entry : Entry) : List (FilePath × Entry) → List (FilePath × Entry)
  | [] => [(path, entry)]
  | (p, e) :: rest => if path = p then (p, entry) :: rest else (p, e) :: putIn path entry rest

def put (disk : Disk) (path : FilePath) (entry : Entry) : Disk := ⟨putIn path entry disk.entries⟩

def remove (disk : Disk) (path : FilePath) : Disk := ⟨disk.entries.filter fun e => e.1 != path⟩

theorem lookup_putIn_self (path : FilePath) (entry : Entry) (entries : List (FilePath × Entry)) :
    (putIn path entry entries).lookup path = some entry := by
  induction entries with
  | nil => simp [putIn]
  | cons first rest ih =>
      unfold putIn
      split
      · next same => rw [List.lookup_cons, beq_iff_eq.mpr same]
      · next differ => rw [List.lookup_cons, beq_false_of_ne differ]; exact ih

/-- What is put at a place below the top is found there. -/
theorem find?_put_self {path : FilePath} (below : path ≠ []) (disk : Disk) (entry : Entry) :
    (disk.put path entry).find? path = some entry := by
  simp [find?, put, below, lookup_putIn_self]

/-- What keeps one from going on through a place. -/
def obstacle? (disk : Disk) (place : FilePath) : Option DiskFault :=
  if !place.nameFits then some .tooLong
  else match disk.find? place with
    | some .folder => none
    | some (.file _) => some .notFolder
    | none => some .missing

/-- Goes to a place; what stands there does not matter. -/
def reach (disk : Disk) (path : FilePath) : Except DiskFault Unit :=
  if !path.textFits then .error .tooLong
  else match path.ancestors.findSome? disk.obstacle? with
    | some fault => .error fault
    | none => if path.nameFits then .ok () else .error .tooLong

/-- Whether anything stands at a place.  There is no answer for one that is too long. -/
def exists? (disk : Disk) (path : FilePath) : Except DiskFault Bool :=
  match disk.reach path with
  | .error .tooLong => .error .tooLong
  | .error _ => .ok false
  | .ok () => .ok (disk.holds path)

/-- Opens a file and writes a text into it.  It has been emptied before it turns out that
the text has no bytes. -/
def fill (disk : Disk) (path : FilePath) (text : String) : Except (DiskFault × Disk) Disk :=
  match Text.unencodable? text with
  | some found => .error (.unencodable found, disk.put path (.file ""))
  | none => .ok (disk.put path (.file text))

/-- Puts a file at a place whose folder is there. -/
def writeFile (disk : Disk) (path : FilePath) (text : String) : Except (DiskFault × Disk) Disk :=
  match disk.reach path with
  | .error fault => .error (fault, disk)
  | .ok () => if disk.isFolder path then .error (.isFolder, disk) else disk.fill path text

/-- Makes folders below a place, one inside the other, as far as they are missing. -/
def makeBelow (disk : Disk) (place : FilePath) : List String → Except (DiskFault × Disk) Disk
  | [] => .ok disk
  | name :: rest =>
      let next := place ++ [name]
      if !next.nameFits then .error (.tooLong, disk)
      else match disk.find? next with
        | some .folder => disk.makeBelow next rest
        | some (.file _) => .error (if rest.isEmpty then .occupied next else .notFolder, disk)
        | none => (disk.put next .folder).makeBelow next rest

def makeFolders (disk : Disk) (path : FilePath) : Except (DiskFault × Disk) Disk :=
  if !path.textFits then .error (.tooLong, disk) else disk.makeBelow [] path

end Disk

end Draftsman
