/-
# Draftsman.Proofs.WholeWrites -- a text is written whole or not at all

A write goes through phases: folders are made, a file of its own is opened, the text is put into
it, the text is checked, and the file is moved onto the target.  `Writer.Stops` says for each phase
what stops it there, and with which fault.  The file of its own is in nobody's way: its place is
free (`Writer.ownFile_free`), and is neither the target nor the top (`Writer.ownFile_ne`).

The main result is `Writer.write_whole`, about a sound disk and a validator that leaves the disk
alone.  What a write fails with is the fault of the phase that stops it; what was on the disk is
still there, and only folders on the way to the target may be new.  If nothing stops it, the target
holds the text, its folders are there, and all else is as before.  A validator that is interrupted
leaves the file of its own behind; after all other faults that is cleared away.
-/
import Draftsman.Disk.Writer
import Draftsman.Proofs.Places
import Draftsman.Proofs.Steps
import Mathlib.Data.List.Nodup

namespace Draftsman

set_option autoImplicit false

namespace Disk

/-- A disk after a text was written: the target holds it, there are folders on all of the way, and
what stands elsewhere is as before. -/
structure Wrote (before after : Disk) (path : FilePath) (text : String) : Prop where
  target : after.find? path = some (.file text)
  folders : ∀ place, place <+: path.parent → after.find? place = some .folder ∧
    (before.find? place = none ∨ before.find? place = some .folder)
  others : ∀ place, place ≠ path → ¬ place <+: path.parent → after.find? place = before.find? place

/-- A disk after a text was not written: what was there is as before, and what is new are folders
on the way to the target. -/
structure Kept (before after : Disk) (path : FilePath) : Prop where
  held : ∀ place entry, before.find? place = some entry → after.find? place = some entry
  new : ∀ place, before.find? place = none →
    after.find? place = none ∨ place <+: path.parent ∧ after.find? place = some .folder

/-- A disk after a write was broken off: as after one that failed, but for a file beside the target
that was not there and holds the text. -/
def BrokenOff (before after : Disk) (path : FilePath) (text : String) : Prop :=
  ∃ kept own, before.Kept kept path ∧ own ≠ path ∧ own.parent = path.parent ∧
    kept.find? own = none ∧ ∀ place, after.find? place =
      if place = own then some (.file text) else kept.find? place

theorem Kept.refl (disk : Disk) (path : FilePath) : disk.Kept disk path :=
  ⟨fun _ _ => id, fun _ => .inl⟩

theorem Kept.congr {before after other : Disk} {path : FilePath} (kept : before.Kept after path)
    (same : ∀ place, other.find? place = after.find? place) : before.Kept other path :=
  ⟨fun place entry held => (same place).trans (kept.held place entry held),
    fun place free => (same place).symm ▸ kept.new place free⟩

/-- Folders that are made on the way to a target are all that is new. -/
theorem Made.kept {disk ready : Disk} {made path : FilePath} (there : disk.Made ready made)
    (onWay : made <+: path.parent) : disk.Kept ready path := by
  constructor
  · intro place entry held
    rw [there.folders]
    split
    · rename_i part
      rcases there.clear place part with free | folder
      · cases free.symm.trans held
      · exact folder.symm.trans held
    · exact held
  · intro place free
    rw [there.folders]
    split
    · rename_i part
      exact .inr ⟨part.trans onWay, rfl⟩
    · exact .inl free

end Disk

namespace Writer

open Disk

/-! ## A file of its own -/

theorem ownName_injective (path : FilePath) : Function.Injective (ownName path) := by
  have number (n : Nat) : Nat.ofDigitChars 10 ((Nat.toDigits 10 n).leftpad 8 '0') 0 = n := by
    rw [List.leftpad, Nat.ofDigitChars_append, Nat.ofDigitChars_replicate_zero, Nat.mul_zero,
      Nat.ofDigitChars_ten_toDigits]
  intro m n same
  have last := List.append_cancel_left same
  simp only [List.cons.injEq, and_true, String.append_left_inj, String.append_right_inj,
    String.ofList_inj] at last
  rw [← number m, last, number]

/-- The place of the file of its own is free: the disk cannot hold more names than entries. -/
theorem ownFile_free (disk : Disk) (path : FilePath) :
    disk.find? (ownFile disk path) = none := by
  simp only [ownFile]
  cases found : (List.range (disk.entries.length + 1)).find?
      fun n => !disk.holds (ownName path n) with
  | some n => simpa [holds] using List.find?_some found
  | none =>
      have listed : (List.range (disk.entries.length + 1)).map (ownName path) ⊆
          disk.entries.map Prod.fst := by
        intro place member
        obtain ⟨n, within, rfl⟩ := List.mem_map.mp member
        have held : disk.holds (ownName path n) = true := by
          simpa using List.find?_eq_none.mp found n within
        obtain ⟨entry, there⟩ := holds_iff.mp held
        rw [Disk.find?, if_neg (by simp [ownName])] at there
        obtain ⟨before, after, whole, -⟩ := List.lookup_eq_some_iff.mp there
        exact List.mem_map.mpr ⟨(ownName path n, entry), by simp [whole], rfl⟩
      have fewer := (List.nodup_range.map (ownName_injective path)).length_le_of_subset listed
      simp only [List.length_map, List.length_range] at fewer
      omega

theorem ownName_ne (path : FilePath) (n : Nat) : ownName path n ≠ path := by
  intro same
  have last := congrArg (fun place => (FilePath.name place).length) same
  simp only [ownName, FilePath.name, List.getLastD_concat, String.length_append] at last
  have dot : ".".length = 1 := rfl
  omega

/-- The file of its own is neither the target nor the top. -/
theorem ownFile_ne (disk : Disk) (path : FilePath) :
    ownFile disk path ≠ path ∧ ownFile disk path ≠ [] :=
  ⟨ownName_ne path _, by simp [ownFile, ownName]⟩

theorem parent_ownFile (disk : Disk) (path : FilePath) :
    (ownFile disk path).parent = path.parent := by
  simp [ownFile, ownName, FilePath.parent]

/-- The text of a place grows with its last name. -/
theorem utf8ByteSize_text_concat (path : FilePath) : ∃ size, path.text.utf8ByteSize ≤ size ∧
    ∀ name, (FilePath.text (path ++ [name])).utf8ByteSize = size + name.utf8ByteSize := by
  have slash : "/".utf8ByteSize = 1 := rfl
  cases path with
  | nil => exact ⟨1, by decide, fun name => by simp [FilePath.text, slash]⟩
  | cons first rest =>
      refine ⟨(FilePath.text (first :: rest)).utf8ByteSize + 1, by omega, fun name => ?_⟩
      have nonempty : first :: rest ≠ [] := List.cons_ne_nil first rest
      simp only [FilePath.text, String.intercalate_append_of_ne_nil nonempty (List.cons_ne_nil name []),
        String.utf8ByteSize_append, String.intercalate_singleton]
      omega

/-- A disk that takes the file of its own for a target takes the target, and its folder. -/
theorem fits_of_ownName {path : FilePath} (below : path ≠ []) (fits : (ownName path 0).Fits) :
    hasRoom path = true ∧ path.Fits ∧ path.parent.Fits := by
  obtain ⟨text, names⟩ := fits
  have own := names _ List.prefix_rfl
  have whole : path.parent ++ [path.name] = path := by
    simp [FilePath.parent, FilePath.name, List.getLastD_eq_getLast?,
      List.getLast?_eq_some_getLast below, List.dropLast_append_getLast below]
  have parent : path.parent.NamesFit := fun place part =>
    names place (part.trans (List.prefix_append _ _))
  -- the name of the target is part of that of the file of its own
  have last : path.nameFits = true := by
    refine decide_eq_true ?_
    simp only [FilePath.nameFits, ownName, FilePath.name, List.getLastD_concat,
      String.utf8ByteSize_append, decide_eq_true_eq] at own ⊢
    omega
  have texts : path.textFits = true ∧ path.parent.textFits = true := by
    obtain ⟨size, shorter, concat⟩ := utf8ByteSize_text_concat path.parent
    have target := concat path.name
    rw [whole] at target
    simp only [FilePath.textFits, ownName, concat, String.utf8ByteSize_append,
      decide_eq_true_eq] at text ⊢
    omega
  exact ⟨by simp [hasRoom, own, text], ⟨texts.1, FilePath.forall_prefix_iff.mpr ⟨last, parent⟩⟩,
    texts.2, parent⟩

/-! ## The phases -/

/-- What checking says of a text. -/
def verdict (judge : Value → Except Failure Unit) (validate : Bool) (text : String) :
    Except WriteFault Unit :=
  if validate then
    match Json.read text with
    | .error fault => .error (.notJson fault)
    | .ok document => (judge document).mapError .rejected
  else .ok ()

/-- What the phases after the making of folders come to. -/
def later (judge : Value → Except Failure Unit) (validate : Bool) (disk : Disk) (path : FilePath)
    (text : String) : Except WriteFault Unit :=
  if hasRoom path then
    match Text.unencodable? text with
    | some found => .error (.disk (.unencodable found))
    | none => verdict judge validate text >>= fun _ =>
        if disk.find? path = some .folder then
          .error (.disk (if path = [] then .busy else .isFolder))
        else .ok ()
  else .error (.disk .tooLong)

/-- Whether a text can be put into a file of its own beside a target. -/
structure Placeable (disk : Disk) (path : FilePath) (text : String) : Prop where
  clear : disk.Open path.parent
  fits : path.parent.Fits
  room : hasRoom path = true
  bytes : Text.unencodable? text = none

/-- What stops a write, and the fault of the phase that it stops in. -/
inductive Stops (judge : Value → Except Failure Unit) (validate : Bool) (disk : Disk)
    (path : FilePath) (text : String) : WriteFault → Prop where
  /-- Folders cannot be made on the way to the target. -/
  | folders {fault : DiskFault} (bars : disk.Bars path.parent fault) :
      Stops judge validate disk path text (.disk fault)
  /-- The name of the file of its own is too long. -/
  | room (clear : disk.Open path.parent) (fits : path.parent.Fits) (long : hasRoom path = false) :
      Stops judge validate disk path text (.disk .tooLong)
  /-- The text has no bytes. -/
  | bytes {found : Text.Unencodable} (clear : disk.Open path.parent) (fits : path.parent.Fits)
      (room : hasRoom path = true) (strange : Text.unencodable? text = some found) :
      Stops judge validate disk path text (.disk (.unencodable found))
  /-- The text is no JSON. -/
  | notJson {fault : Json.Fault} (placed : Placeable disk path text) (asked : validate = true)
      (malformed : Json.read text = .error fault) :
      Stops judge validate disk path text (.notJson fault)
  /-- The document is rejected. -/
  | rejected {document : Value} {failure : Failure} (placed : Placeable disk path text)
      (asked : validate = true) (read : Json.read text = .ok document)
      (refused : judge document = .error failure) :
      Stops judge validate disk path text (.rejected failure)
  /-- The target is a folder. -/
  | target (placed : Placeable disk path text)
      (fit : validate = true → ∃ document, Json.read text = .ok document ∧ judge document = .ok ())
      (folder : disk.find? path = some .folder) :
      Stops judge validate disk path text (.disk (if path = [] then .busy else .isFolder))

section Phases

variable {judge : Value → Except Failure Unit} {validate : Bool} {disk ready : Disk}
  {path : FilePath} {text : String}

theorem verdict_isOk : verdict judge validate text = .ok () ↔
    (validate = true → ∃ document, Json.read text = .ok document ∧ judge document = .ok ()) := by
  unfold verdict
  cases validate with
  | false => simp
  | true =>
      cases read : Json.read text with
      | error fault => simp
      | ok document => cases verdict : judge document <;> simp [verdict, Except.mapError]

theorem verdict_error {fault : WriteFault} :
    verdict judge validate text = .error fault ↔ validate = true ∧
      ((∃ own, Json.read text = .error own ∧ fault = .notJson own) ∨
        ∃ document failure, Json.read text = .ok document ∧ judge document = .error failure ∧
          fault = .rejected failure) := by
  unfold verdict
  cases validate with
  | false => simp
  | true =>
      cases read : Json.read text with
      | error own => simp [eq_comm]
      | ok document => cases verdict : judge document <;> simp [verdict, Except.mapError, eq_comm]

/-- The target is as before once the folders on the way to it are made. -/
theorem find?_target (made : disk.Made ready path.parent) : ready.find? path = disk.find? path := by
  rw [made.folders]
  split
  · rename_i part
    have length := part.length_le
    simp only [FilePath.parent, List.length_dropLast] at length
    obtain rfl : path = [] := List.eq_nil_of_length_eq_zero (by omega)
    rfl
  · rfl

/-- A file of its own that is put and taken away again leaves nothing. -/
theorem find?_remove_put {own : FilePath} (below : own ≠ []) (free : ready.find? own = none)
    (text : String) (place : FilePath) :
    ((ready.put own (.file text)).remove own).find? place = ready.find? place := by
  rw [find?_remove below, find?_put below]
  split
  · rename_i same
    rw [same, free]
  · rfl

theorem find?_clear {own : FilePath} (below : own ≠ []) (free : ready.find? own = none)
    (text : String) (place : FilePath) :
    (clear (ready.put own (.file text)) own).find? place = ready.find? place := by
  have there : (ready.put own (.file text)).find? own = some (.file text) :=
    find?_put_self below ready _
  simp only [clear, there]
  exact find?_remove_put below free text place

@[simp] theorem result_abandon (disk : Disk) (own : FilePath) (fault : WriteFault)
    (judged? : Option Value) : (abandon disk own fault judged?).result = .error fault := rfl

theorem checked_eq (judge : Value → Except Failure Unit) (validate : Bool) (placed : Disk)
    (own : FilePath) (text : String) :
    ∃ judged?, (if validate then Writer.judge (.ofJudgement judge) placed own text
      else ⟨placed, .ok (), none⟩) = ⟨placed, verdict judge validate text, judged?⟩ := by
  unfold verdict Writer.judge
  cases validate with
  | false => exact ⟨none, rfl⟩
  | true =>
      cases Json.read text with
      | error fault => exact ⟨none, rfl⟩
      | ok document => exact ⟨some document, rfl⟩

theorem move_of_folder (own : FilePath) (text : String) (folder : disk.find? path = some .folder) :
    move disk own path text = .error (if path = [] then .busy else .isFolder) := by
  unfold move
  split
  · rfl
  · rw [if_pos (isFolder_iff.mpr folder)]

theorem move_of_not_folder (own : FilePath) (text : String)
    (other : disk.find? path ≠ some .folder) :
    move disk own path text = .ok ((disk.remove own).put path (.file text)) := by
  rw [move, if_neg (below_of_not_folder other), if_neg fun folder => other (isFolder_iff.mp folder)]

/-- What a write does once the folders are there.  If it stops, it leaves nothing behind, unless it
is broken off; otherwise the target holds the text. -/
theorem write_ready (judge : Value → Except Failure Unit) (validate : Bool) (text : String)
    (done : disk.makeFolders path.parent = .ok ready) :
    let attempt := write (.ofJudgement judge) validate disk path text
    attempt.result = later judge validate disk path text ∧
      (attempt.result = .ok () → ∀ place, attempt.disk.find? place =
        if place = path then some (.file text) else ready.find? place) ∧
      ∀ fault, attempt.result = .error fault → ∀ place, attempt.disk.find? place =
        if fault.interrupts = true ∧ place = ownFile ready path then some (.file text)
        else ready.find? place := by
  obtain ⟨notTarget, below⟩ := ownFile_ne ready path
  have free := ownFile_free ready path
  have made := made_of_makeFolders done
  simp only [write, done, later]
  generalize ownFile ready path = own at notTarget below free ⊢
  cases room : hasRoom path with
  | false => exact ⟨rfl, by simp, fun fault failed place => by cases failed; rfl⟩
  | true =>
      simp only [fill, Bool.not_true, Bool.false_eq_true, if_false, if_true]
      cases bytes : Text.unencodable? text with
      | some found =>
          refine ⟨rfl, by simp, fun fault failed place => ?_⟩
          cases failed
          exact find?_clear below free "" place
      | none =>
          obtain ⟨judged?, checked⟩ :=
            checked_eq judge validate (ready.put own (.file text)) own text
          have target : (ready.put own (.file text)).find? path = disk.find? path := by
            rw [find?_put below, if_neg (Ne.symm notTarget), find?_target made]
          have given (fault : WriteFault) (place : FilePath) :
              (abandon (ready.put own (.file text)) own fault judged?).disk.find? place =
                if fault.interrupts = true ∧ place = own then some (.file text)
                else ready.find? place := by
            unfold abandon
            cases fault.interrupts with
            | true => simp [find?_put below]
            | false => simp [find?_clear below free]
          simp only [checked]
          cases verdict judge validate text with
          | error fault => exact ⟨rfl, by simp, fun _ failed => Except.error.inj failed ▸ given fault⟩
          | ok _ =>
              by_cases folder : disk.find? path = some .folder
              · simp only [move_of_folder own text (target.trans folder), if_pos folder]
                exact ⟨rfl, by simp, fun _ failed => Except.error.inj failed ▸ given _⟩
              · have notTop := below_of_not_folder folder
                simp only [move_of_not_folder own text (target ▸ folder), if_neg folder]
                refine ⟨rfl, fun _ place => ?_, by simp⟩
                rw [find?_put notTop, find?_remove_put below free]

/-- Where folders can be made, what stops a write is what the later phases come to. -/
theorem later_error_iff (clear : disk.Open path.parent) (fits : path.parent.Fits)
    {fault : WriteFault} :
    later judge validate disk path text = .error fault ↔
      Stops judge validate disk path text fault := by
  unfold later
  constructor
  · intro failed
    split at failed
    · rename_i room
      split at failed
      · rename_i found strange
        obtain rfl := Except.error.inj failed
        exact .bytes clear fits room strange
      · rename_i bytes
        have placed : Placeable disk path text := ⟨clear, fits, room, bytes⟩
        cases checked : verdict judge validate text with
        | error own =>
            rw [checked] at failed
            obtain rfl : own = fault := Except.error.inj failed
            obtain ⟨asked, ⟨own, malformed, rfl⟩ | ⟨document, failure, read, refused, rfl⟩⟩ :=
              verdict_error.mp checked
            · exact .notJson placed asked malformed
            · exact .rejected placed asked read refused
        | ok _ =>
            simp only [checked, bind, Except.bind] at failed
            split at failed
            · rename_i folder
              obtain rfl := Except.error.inj failed
              exact .target placed (verdict_isOk.mp checked) folder
            · cases failed
    · rename_i long
      obtain rfl := Except.error.inj failed
      exact .room clear fits (by simpa using long)
  · intro stops
    cases stops with
    | folders bars => exact absurd fits (bars.not_open clear)
    | room _ _ long => simp [long]
    | bytes _ _ room strange => simp [room, strange]
    | notJson placed asked malformed =>
        simp [placed.room, placed.bytes, verdict_error.mpr ⟨asked, .inl ⟨_, malformed, rfl⟩⟩, bind,
          Except.bind]
    | rejected placed asked read refused =>
        simp [placed.room, placed.bytes,
          verdict_error.mpr ⟨asked, .inr ⟨_, _, read, refused, rfl⟩⟩, bind, Except.bind]
    | target placed fit folder =>
        simp [placed.room, placed.bytes, verdict_isOk.mpr fit, folder, bind, Except.bind]

/-- A write is stopped in the phase that its fault tells of. -/
theorem write_error_iff (sound : disk.Sound) {fault : WriteFault} :
    (write (.ofJudgement judge) validate disk path text).result = .error fault ↔
      Stops judge validate disk path text fault := by
  rcases makeFolders_cases disk path.parent with
    ⟨ready, done, made, fits⟩ | ⟨own, left, -, failed, bars, -⟩
  · rw [(write_ready judge validate text done).1]
    exact later_error_iff made.clear fits
  · simp only [write, failed, Except.error.injEq]
    constructor
    · rintro rfl
      exact .folders bars
    · intro stops
      cases stops with
      | folders bars' => rw [bars.unique sound bars']
      | room clear fits => exact absurd fits (bars.not_open clear)
      | bytes clear fits => exact absurd fits (bars.not_open clear)
      | notJson placed => exact absurd placed.fits (bars.not_open placed.clear)
      | rejected placed => exact absurd placed.fits (bars.not_open placed.clear)
      | target placed => exact absurd placed.fits (bars.not_open placed.clear)

theorem later_isOk (done : later judge validate disk path text = .ok ()) :
    verdict judge validate text = .ok () ∧ disk.find? path ≠ some .folder := by
  unfold later at done
  split at done
  · split at done
    · cases done
    · obtain ⟨_, passed, done⟩ := bind_eq_ok.mp done
      refine ⟨passed, fun folder => ?_⟩
      rw [if_pos folder] at done
      cases done
  · cases done

/-- A write that succeeds has made its folders, and has a text that passes the check and a target
that is no folder. -/
theorem passed_of_write
    (done : (write (.ofJudgement judge) validate disk path text).result = .ok ()) :
    (∃ ready, disk.makeFolders path.parent = .ok ready) ∧ verdict judge validate text = .ok () ∧
      disk.find? path ≠ some .folder := by
  cases made : disk.makeFolders path.parent with
  | error blocked =>
      simp only [write, made] at done
      cases done
  | ok ready => exact ⟨⟨ready, rfl⟩, later_isOk ((write_ready judge validate text made).1 ▸ done)⟩

theorem wrote_of_write (done : (write (.ofJudgement judge) validate disk path text).result = .ok ()) :
    disk.Wrote (write (.ofJudgement judge) validate disk path text).disk path text := by
  obtain ⟨⟨ready, there⟩, -, notFolder⟩ := passed_of_write done
  have made := made_of_makeFolders there
  have after := (write_ready judge validate text there).2.1 done
  constructor
  · rw [after, if_pos rfl]
  · intro place part
    refine ⟨?_, made.clear place part⟩
    have differ : place ≠ path := by
      rintro rfl
      rw [← find?_target made, made.folders, if_pos part] at notFolder
      exact notFolder rfl
    rw [after, if_neg differ, made.folders, if_pos part]
  · intro place differ apart
    rw [after, if_neg differ, made.folders, if_neg apart]

/-- A write that fails leaves at most folders, and the file of its own if it is broken off. -/
theorem left_of_write {fault : WriteFault}
    (failed : (write (.ofJudgement judge) validate disk path text).result = .error fault) :
    let after := (write (.ofJudgement judge) validate disk path text).disk
    (fault.interrupts = false → disk.Kept after path) ∧
      (fault.interrupts = true → disk.BrokenOff after path text) := by
  rcases makeFolders_cases disk path.parent with
    ⟨ready, done, made, -⟩ | ⟨own, left, made, blocked, -, onWay, there⟩
  · have after := (write_ready judge validate text done).2.2 fault failed
    have kept := made.kept List.prefix_rfl
    constructor
    · intro other
      exact kept.congr (by simpa [other] using after)
    · intro broken
      exact ⟨ready, ownFile ready path, kept, (ownFile_ne ready path).1, parent_ownFile ready path,
        ownFile_free ready path, by simpa [broken] using after⟩
  · simp only [write, blocked, Except.error.injEq] at failed ⊢
    subst failed
    exact ⟨fun _ => there.kept onWay, nofun⟩

/-- A sound disk stays sound, whether a text is written or not. -/
theorem sound_of_write (sound : disk.Sound) :
    (write (.ofJudgement judge) validate disk path text).disk.Sound := by
  rcases makeFolders_cases disk path.parent with
    ⟨ready, done, made, -⟩ | ⟨own, left, made, blocked, -, onWay, there⟩
  · have readySound := sound.made made
    have parent : ready.find? path.parent = some .folder := by
      rw [made.folders, if_pos List.prefix_rfl]
    obtain ⟨-, written, left⟩ := write_ready judge validate text done
    cases result : (write (.ofJudgement judge) validate disk path text).result with
    | ok _ =>
        refine readySound.put parent ?_ (written result)
        rw [find?_target made]
        exact (passed_of_write result).2.2
    | error fault =>
        have after := left fault result
        cases broken : fault.interrupts with
        | false => exact readySound.congr (by simpa [broken] using after)
        | true =>
            have own : ready.find? (ownFile ready path).parent = some .folder := by
              rwa [parent_ownFile]
            refine readySound.put own ?_ (by simpa [broken] using after)
            rw [ownFile_free]
            nofun
  · simp only [write, blocked]
    exact sound.made there

/-- A write is all or nothing.  If nothing stops it, the target holds the text, the folders on the
way to it are there, and all else is as before; and if it is to check the text, the text is JSON
and its document is accepted.  It fails with the fault of the phase that stops it; then all that
was there is as before, and only folders on the way to the target are new.  A file of its own
remains only if the validator is interrupted. -/
theorem write_whole {disk : Disk} (sound : disk.Sound) (judge : Value → Except Failure Unit)
    (validate : Bool) (path : FilePath) (text : String) :
    let attempt := write (.ofJudgement judge) validate disk path text
    (attempt.result = .ok () →
        disk.Wrote attempt.disk path text ∧
          (validate = true → ∃ document, Json.read text = .ok document ∧ judge document = .ok ())) ∧
      ∀ fault, (attempt.result = .error fault ↔ Stops judge validate disk path text fault) ∧
        (attempt.result = .error fault →
          (fault.interrupts = false → disk.Kept attempt.disk path) ∧
            (fault.interrupts = true → disk.BrokenOff attempt.disk path text)) :=
  ⟨fun done => ⟨wrote_of_write done, verdict_isOk.mp (passed_of_write done).2.1⟩,
  fun _ => ⟨write_error_iff sound, left_of_write⟩⟩

def shelfDisk : Disk := ⟨[(["shelf"], .folder), (["shelf", "list"], .file "old")]⟩

/-- A validator that is always interrupted. -/
def impatient (_ : Value) : Except Failure Unit := .error ⟨.interrupted, ""⟩

theorem write_whole_shelf :
    shelfDisk.Sound ∧
      (∃ written, write (.ofJudgement fun _ => .ok ()) true shelfDisk ["shelf", "new", "list"] "[]" =
          written ∧ written.result = .ok () ∧
        shelfDisk.Wrote written.disk ["shelf", "new", "list"] "[]") ∧
      (∃ refused, write (.ofJudgement fun _ => .ok ()) true shelfDisk ["shelf", "list"] "[" =
          refused ∧ refused.result = .error (.notJson (.malformed .value 1 2 1)) ∧
        shelfDisk.Kept refused.disk ["shelf", "list"]) ∧
      (∃ broken, write (.ofJudgement impatient) true shelfDisk ["shelf", "list"] "[]" = broken ∧
        broken.result = .error (.rejected ⟨.interrupted, ""⟩) ∧
          shelfDisk.BrokenOff broken.disk ["shelf", "list"] "[]") ∧
      Stops (fun _ => .ok ()) true shelfDisk ["shelf", "list", "new"] "[]"
        (.disk (.occupied ["shelf", "list"])) := by
  have sound : shelfDisk.Sound := sound_of_entries (by decide)
  refine ⟨sound, ⟨_, rfl, rfl, ?_⟩, ⟨_, rfl, rfl, ?_⟩, ⟨_, rfl, rfl, ?_⟩, ?_⟩
  · exact ((write_whole sound _ true ["shelf", "new", "list"] "[]").1 rfl).1
  · exact (((write_whole sound _ true ["shelf", "list"] "[").2 _).2 rfl).1 rfl
  · exact (((write_whole sound _ true ["shelf", "list"] "[]").2 _).2 rfl).2 rfl
  · exact ((write_whole sound _ true ["shelf", "list", "new"] "[]").2 _).1.mp rfl

end Phases

end Writer

end Draftsman
