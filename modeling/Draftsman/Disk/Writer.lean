/-
# Draftsman.Disk.Writer -- files that are written whole or not at all

A text is first written to a file of its own beside its target, then checked, and
only then moved onto the target.  Whatever fails on the way, the target stays as it
was and the file of its own is cleared away; only the folders made on the way to the
target stay.  But a run that is broken off from outside clears nothing away.

* `Writer.write` writes a text over what is there, `Writer.create` only where there
  is nothing;
* a `Validator` judges the document of the text.  It may touch the disk, as a check
  by another program would.
-/
import Draftsman.Disk
import Draftsman.Draft06
import Draftsman.Json.Reader

namespace Draftsman

set_option autoImplicit false

/-- Judges a document while its text stands at a place of its own. -/
abbrev Validator := Value → FilePath → Disk → Except Failure Unit × Disk

namespace Validator

def ofJudgement (judge : Value → Except Failure Unit) : Validator :=
  fun document _ disk => (judge document, disk)

def draft06 : Validator :=
  ofJudgement fun document => (Draft06.check document).mapError Draft06.Fault.failure

end Validator

inductive WriteFault where
  /-- Something stands at the target. -/
  | alreadyThere (path : FilePath)
  /-- The disk refuses. -/
  | disk (fault : DiskFault)
  /-- The text is no JSON. -/
  | notJson (fault : Json.Fault)
  /-- The document is rejected. -/
  | rejected (failure : Failure)
  deriving Repr

def WriteFault.failure : WriteFault → Failure
  | alreadyThere path =>
      ⟨.fileExists, "Output file already exists: " ++ path.text ++
        ". Use force mode to overwrite."⟩
  | disk fault => fault.failure
  | notJson (.tooLong digits) => ⟨.badValue, (Json.Fault.tooLong digits).message⟩
  | notJson fault => ⟨.invalidDocument, "Output is not valid JSON: " ++ fault.message⟩
  | rejected failure => failure

/-- Whether a fault breaks off the run from outside. -/
def WriteFault.interrupts : WriteFault → Bool
  | rejected failure => failure.kind == .interrupted
  | _ => false

/-- What an attempt to write leaves behind: the disk, whether it failed, and the
document that the validator was asked about. -/
structure Attempt where
  disk : Disk
  result : Except WriteFault Unit
  judged? : Option Value

namespace Writer

/-- The name of the file of its own for a target, by a number of eight digits. -/
def ownName (path : FilePath) (number : Nat) : FilePath :=
  let digits := (Nat.toDigits 10 number).leftpad 8 '0'
  path.parent ++ ["." ++ path.name ++ "." ++ String.ofList digits ++ ".tmp"]

/-- Whether the disk takes the name of the file of its own for a target.  It is longer
than the target's, by the same for every number. -/
def hasRoom (path : FilePath) : Bool := (ownName path 0).nameFits && (ownName path 0).textFits

/-- The file of its own for a target: the first that is not there yet.  One of more
names than the disk has entries is always free. -/
def ownFile (disk : Disk) (path : FilePath) : FilePath :=
  let numbers := List.range (disk.entries.length + 1)
  ownName path ((numbers.find? fun n => !disk.holds (ownName path n)).getD 0)

/-- Clears the file of its own away.  If a folder has taken its place, that stays. -/
def clear (disk : Disk) (own : FilePath) : Disk :=
  match disk.find? own with
  | some (.file _) => disk.remove own
  | _ => disk

def abandon (disk : Disk) (own : FilePath) (fault : WriteFault) (judged? : Option Value) :
    Attempt :=
  ⟨if fault.interrupts then disk else clear disk own, .error fault, judged?⟩

/-- Checks a text that stands at a place of its own. -/
def judge (validator : Validator) (disk : Disk) (own : FilePath) (text : String) : Attempt :=
  match Json.read text with
  | .error fault => ⟨disk, .error (.notJson fault), none⟩
  | .ok document =>
      let (verdict, after) := validator document own disk
      ⟨after, verdict.mapError .rejected, some document⟩

def move (disk : Disk) (own path : FilePath) (text : String) : Except DiskFault Disk :=
  if path = [] then .error .busy
  else if disk.isFolder path then .error .isFolder
  else .ok ((disk.remove own).put path (.file text))

/-- Writes a text at a place, over what is there. -/
def write (validator : Validator) (validate : Bool) (disk : Disk) (path : FilePath)
    (text : String) : Attempt :=
  match disk.makeFolders path.parent with
  | .error (fault, left) => ⟨left, .error (.disk fault), none⟩
  | .ok ready =>
      if !hasRoom path then ⟨ready, .error (.disk .tooLong), none⟩
      else
        let own := ownFile ready path
        match ready.fill own text with
        | .error (fault, left) => abandon left own (.disk fault) none
        | .ok placed =>
            let checked :=
              if validate then judge validator placed own text else ⟨placed, .ok (), none⟩
            match checked.result with
            | .error fault => abandon checked.disk own fault checked.judged?
            | .ok () =>
                match move checked.disk own path text with
                | .error fault => abandon checked.disk own (.disk fault) checked.judged?
                | .ok done => ⟨done, .ok (), checked.judged?⟩

/-- Writes a text at a place where nothing is. -/
def create (validator : Validator) (validate : Bool) (disk : Disk) (path : FilePath)
    (text : String) : Attempt :=
  match disk.exists? path with
  | .error fault => ⟨disk, .error (.disk fault), none⟩
  | .ok true => ⟨disk, .error (.alreadyThere path), none⟩
  | .ok false => write validator validate disk path text

end Writer

end Draftsman
