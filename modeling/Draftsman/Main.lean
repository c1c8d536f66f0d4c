/-
# Draftsman.Main -- the command on a real disk

A run needs only the places that its arguments name and the folders on the way to
them.  These are read first; the run itself is `Command.run`; then what has changed is
put back onto the disk, each file by way of another beside it.
-/
import Draftsman.Command

namespace Draftsman.Main

set_option autoImplicit false

/-- What stands at a place.  A text that cannot be read counts as empty. -/
def probe (path : FilePath) : IO (Option Entry) := do
  try
    let text ← IO.FS.readFile path.text
    pure (some (.file text))
  catch
    | .noFileOrDirectory _ _ _ => pure none
    | .userError _ => pure (some (.file ""))
    | _ => pure (some .folder)

/-- Reads the entries on the way to a place, as long as they are folders, and then the
place itself. -/
def survey (disk : Disk) : List FilePath → IO Disk
  | [] => pure disk
  | path :: rest => do
      match ← probe path with
      | some .folder => survey (disk.put path .folder) rest
      | some entry => pure (disk.put path entry)
      | none => pure disk

def surveyAll (home : FilePath) : Disk → List String → IO Disk
  | disk, [] => pure disk
  | disk, written :: rest => do
      let path := FilePath.resolve home written
      let found ← survey disk ((path.ancestors ++ [path]).drop 1)
      surveyAll home found rest

def namedPaths (line : List String) : List String :=
  match Arguments.read line with
  | .ok arguments => arguments.config?.toList ++ arguments.operands.take 2
  | .error _ => []

def settleEntry (before : Disk) (path : FilePath) (entry : Entry) : IO Unit :=
  if before.find? path = some entry then pure ()
  else match entry with
    | .folder => IO.FS.createDir path.text
    | .file text => do
        let own := Writer.ownFile before path
        IO.FS.writeFile own.text text
        IO.FS.rename own.text path.text

end Draftsman.Main

open Draftsman Draftsman.Main in
def main (line : List String) : IO UInt32 := do
  let home := FilePath.resolve [] (← IO.currentDir).toString
  let before ← surveyAll home ⟨[]⟩ (namedPaths line)
  let (outcome, after) := Command.run home line before
  for (path, entry) in after.entries do
    settleEntry before path entry
  IO.print outcome.out
  IO.eprint outcome.err
  match outcome.escaped? with
  | some failure => IO.eprintln (Text.withEscapes failure.text)
  | none => pure ()
  pure outcome.exit.toUInt32
