/-
# Draftsman.Proofs.Delivery -- what a run of the command does to the disk

A run comes to write a text, or it ends before (`Command.prepare`).  It touches the disk only when
it writes, and prints the document only when it does not (`run_of_ended`, `run_of_ordered`).

Whichever way a text is written, the disk afterwards is the one before with the text in its place,
or the one before with new folders on the way there at most (`deliver_wrote`, `deliver_left`).  So a
run that fails for any reason has printed nothing and has changed no file (`run_failed`).  There is
one exception: a text without bytes that goes straight to its place leaves an empty file there, and
what the file held is lost (`run_failed_emptied`).
-/
import Draftsman.Command
import Draftsman.Proofs.WholeWrites

namespace Draftsman

set_option autoImplicit false

namespace Disk

variable {disk after : Disk} {path : FilePath} {text : String}

/-- A disk on which a file has been opened for a text that has no bytes. -/
structure Emptied (before after : Disk) (path : FilePath) (text : String) : Prop where
  strange : (Text.unencodable? text).isSome = true
  target : before.find? path ≠ some .folder
  opened : after.find? path = some (.file "")
  others : ∀ place, place ≠ path → after.find? place = before.find? place

/-- What comes of putting a file straight into its place: nothing, where it is not reached or is a
folder; else it holds the text, or has been opened for it. -/
theorem writeFile_cases (disk : Disk) (path : FilePath) (text : String) :
    (∃ fault, disk.writeFile path text = .error (fault, disk) ∧
        (disk.reach path = .error fault ∨ disk.find? path = some .folder)) ∨
      disk.reach path = .ok () ∧ disk.find? path ≠ some .folder ∧
        ((∃ found, disk.writeFile path text = .error (.unencodable found, disk.put path (.file "")) ∧
            Text.unencodable? text = some found) ∨
          disk.writeFile path text = .ok (disk.put path (.file text)) ∧
            Text.unencodable? text = none) := by
  unfold writeFile
  cases reached : disk.reach path with
  | error fault => exact .inl ⟨fault, rfl, .inl rfl⟩
  | ok _ =>
      by_cases folder : disk.find? path = some .folder
      · exact .inl ⟨.isFolder, if_pos (isFolder_iff.mpr folder), .inr folder⟩
      · refine .inr ⟨rfl, folder, ?_⟩
        simp only [if_neg (mt isFolder_iff.mp folder), fill]
        cases Text.unencodable? text with
        | some found => exact .inl ⟨found, rfl, rfl⟩
        | none => exact .inr ⟨rfl, rfl⟩

/-- A file that is put straight into its place is written, and nothing else is. -/
theorem wrote_of_writeFile (written : disk.writeFile path text = .ok after) :
    disk.Wrote after path text := by
  rcases writeFile_cases disk path text with
    ⟨fault, failed, -⟩ | ⟨reached, other, ⟨found, failed, -⟩ | ⟨done, -⟩⟩
  · cases written.symm.trans failed
  · cases written.symm.trans failed
  · obtain rfl := Except.ok.inj (written.symm.trans done)
    have below := below_of_not_folder other
    have folders := ((reach_isOk below).mp reached).2
    constructor
    · exact find?_put_self below disk _
    · intro place part
      have differ : place ≠ path := by
        rintro rfl
        exact other (folders place part)
      rw [find?_put below, if_neg differ]
      exact ⟨folders place part, .inr (folders place part)⟩
    · intro place differ _
      rw [find?_put below, if_neg differ]

/-- A file that is not put into its place is left as it is, or has been opened. -/
theorem left_of_writeFile {fault : DiskFault}
    (failed : disk.writeFile path text = .error (fault, after)) :
    after = disk ∨ disk.Emptied after path text := by
  rcases writeFile_cases disk path text with
    ⟨own, failed', -⟩ | ⟨-, other, ⟨found, failed', strange⟩ | ⟨done, -⟩⟩
  · exact .inl (Prod.mk.inj (Except.error.inj (failed.symm.trans failed'))).2
  · obtain ⟨-, rfl⟩ := Prod.mk.inj (Except.error.inj (failed.symm.trans failed'))
    have below := below_of_not_folder other
    refine .inr ⟨by rw [strange]; rfl, other, find?_put_self below disk _, fun place differ => ?_⟩
    rw [find?_put below, if_neg differ]
  · cases failed.symm.trans done

/-- What stands above a folder is a folder. -/
theorem Sound.folder_above (sound : disk.Sound) {place : FilePath}
    (folder : disk.find? path = some .folder) (part : place <+: path) :
    disk.find? place = some .folder := by
  by_cases same : place = path
  · exact same ▸ folder
  · exact sound folder part same

/-- Where a folder is there for it and no folder is in its way, a text with bytes can be put straight
into its place. -/
theorem writeFile_isOk (sound : disk.Sound) (fits : path.Fits)
    (folder : disk.find? path.parent = some .folder) (target : disk.find? path ≠ some .folder)
    (bytes : Text.unencodable? text = none) : ∃ after, disk.writeFile path text = .ok after := by
  have below := below_of_not_folder target
  have reached : disk.reach path = .ok () :=
    (reach_isOk below).mpr ⟨fits, fun place part => sound.folder_above folder part⟩
  rcases writeFile_cases disk path text with
    ⟨fault, -, failed | folder⟩ | ⟨-, -, ⟨found, -, strange⟩ | ⟨done, -⟩⟩
  · cases reached.symm.trans failed
  · exact absurd folder target
  · cases bytes.symm.trans strange
  · exact ⟨_, done⟩

end Disk

namespace Command

open Disk

/-! ## Up to the writing -/

/-- A text that a run comes to write: the description that it is drawn from, the settings, the
place and the text. -/
structure Order where
  task : Task
  settings : OutputSettings
  path : FilePath
  text : String

/-- What a run comes to write, or else the outcome that it has ended with before. -/
def prepare (home : FilePath) (line : List String) (disk : Disk) : Except Outcome Order := do
  let arguments ← (Arguments.read line).mapError usageOutcome
  if arguments.help then .error ⟨0, helpText, "", none⟩
  else
    let places ← (places home disk arguments).mapError usageOutcome
    let task ← (load disk arguments places).mapError (cutShort "")
    let remarked := log arguments (remarks arguments task)
    let (s, text) ← (compile task).mapError (cutShort remarked)
    match places.output? with
    | none => .error (printed remarked text)
    | some path => .ok ⟨task, s, path, text⟩

variable {home : FilePath} {line : List String} {disk : Disk} {order : Order}

/-- What a run that comes to write has gone through before. -/
theorem prepare_eq_ok (ordered : prepare home line disk = .ok order) :
    ∃ arguments places, Arguments.read line = .ok arguments ∧ arguments.help = false ∧
      Command.places home disk arguments = .ok places ∧
      load disk arguments places = .ok order.task ∧
      compile order.task = .ok (order.settings, order.text) ∧ places.output? = some order.path := by
  simp only [prepare, bind_eq_ok, mapError_eq_ok] at ordered
  obtain ⟨arguments, read, ordered⟩ := ordered
  split at ordered
  · cases ordered
  · rename_i help
    simp only [bind_eq_ok, mapError_eq_ok] at ordered
    obtain ⟨places, placed, task, loaded, ⟨s, text⟩, compiled, ordered⟩ := ordered
    split at ordered
    · cases ordered
    · rename_i path named
      obtain rfl := Except.ok.inj ordered
      exact ⟨arguments, places, read, by simpa using help, placed, loaded, compiled, named⟩

/-- Whether the second operand of a command line names a place. -/
def Outputs (home : FilePath) (line : List String) (path : FilePath) : Prop :=
  ∃ arguments input written, Arguments.read line = .ok arguments ∧
    arguments.operands = [input, written] ∧ path = FilePath.resolve home written

/-- The place of a text that is written is that of the second operand. -/
theorem outputs_of_prepare (ordered : prepare home line disk = .ok order) :
    Outputs home line order.path := by
  obtain ⟨arguments, found, read, -, placed, -, -, named⟩ := prepare_eq_ok ordered
  simp only [places] at placed
  -- with a configuration or without one
  split at placed
  all_goals
    obtain ⟨config?, -, placed⟩ := bind_eq_ok.mp placed
    split at placed
    · cases placed
    · obtain ⟨input, -, placed⟩ := bind_eq_ok.mp placed
      obtain rfl := Except.ok.inj placed
      cases named
    · rename_i input output operands
      obtain ⟨there, -, placed⟩ := bind_eq_ok.mp placed
      obtain rfl := Except.ok.inj placed
      exact ⟨arguments, input, output, read, operands, (Option.some.inj named).symm⟩
    · obtain ⟨there, -, placed⟩ := bind_eq_ok.mp placed
      cases placed

theorem exit_cutShort (logged : String) (stop : Stop) :
    (cutShort logged stop).exit = 1 ∧ (cutShort logged stop).out = "" := by
  cases stop <;> exact ⟨rfl, rfl⟩

theorem printed_failed {logged text : String} (failed : (printed logged text).exit ≠ 0) :
    (printed logged text).out = "" := by
  unfold printed at failed ⊢
  split
  · exact (exit_cutShort _ _).2
  · rename_i bytes
    simp [bytes] at failed

/-- A run that ends before it comes to write leaves the disk as it is; if it fails, it prints
nothing. -/
theorem run_of_ended {outcome : Outcome} (ended : prepare home line disk = .error outcome) :
    run home line disk = (outcome, disk) ∧ (outcome.exit ≠ 0 → outcome.out = "") := by
  unfold run
  unfold prepare at ended
  cases read : Arguments.read line with
  | error fault =>
      rw [read] at ended
      obtain rfl : usageOutcome fault = outcome := Except.error.inj ended
      exact ⟨rfl, fun _ => rfl⟩
  | ok arguments =>
      simp only [read, Except.mapError, bind, Except.bind] at ended ⊢
      split at ended
      · rename_i help
        obtain rfl := Except.error.inj ended
        exact ⟨if_pos help, fun failed => absurd rfl failed⟩
      · rename_i help
        rw [if_neg help]
        cases placed : places home disk arguments with
        | error fault =>
            rw [placed] at ended
            obtain rfl : usageOutcome fault = outcome := Except.error.inj ended
            exact ⟨rfl, fun _ => rfl⟩
        | ok places =>
            simp only [placed, work] at ended ⊢
            cases loaded : load disk arguments places with
            | error stop =>
                rw [loaded] at ended
                obtain rfl : cutShort "" stop = outcome := Except.error.inj ended
                exact ⟨rfl, fun _ => (exit_cutShort _ _).2⟩
            | ok task =>
                simp only [loaded] at ended ⊢
                cases compiled : compile task with
                | error stop =>
                    rw [compiled] at ended
                    obtain rfl := Except.error.inj ended
                    exact ⟨rfl, fun _ => (exit_cutShort _ _).2⟩
                | ok done =>
                    cases named : places.output? with
                    | none =>
                        simp only [compiled, named] at ended
                        obtain rfl := Except.error.inj ended
                        exact ⟨rfl, printed_failed⟩
                    | some path =>
                        simp only [compiled, named] at ended
                        cases ended

/-- A run that comes to write prints nothing; the disk and the exit code are those of the
writing. -/
theorem run_of_ordered (ordered : prepare home line disk = .ok order) :
    let delivery := deliver order.settings disk order.path order.text
    (run home line disk).2 = delivery.disk ∧ (run home line disk).1.out = "" ∧
      (run home line disk).1.exit = if delivery.result = .ok () then 0 else 1 := by
  obtain ⟨arguments, places, read, help, placed, loaded, compiled, named⟩ := prepare_eq_ok ordered
  have reached : run home line disk = work arguments disk places := by
    simp only [run, read, help, placed, Bool.false_eq_true, if_false]
  rw [reached]
  simp only [work, loaded, compiled, named]
  split
  · rename_i done
    exact ⟨rfl, rfl, by rw [if_pos done]⟩
  · rename_i stop failed
    obtain ⟨exit, out⟩ := exit_cutShort (log arguments (remarks arguments order.task) ++
      log arguments (deliver order.settings disk order.path order.text).lines) stop
    exact ⟨rfl, out, by rw [exit, if_neg (by simp [failed])]⟩

/-! ## The writing -/

section Writing

variable {s : OutputSettings} {path : FilePath} {text : String}

/-- Whether what stands at a place is in the way of a text, or cannot be told. -/
def Blocked (s : OutputSettings) (disk : Disk) (path : FilePath) : Prop :=
  s.mode.isForce = false ∧ disk.exists? path ≠ .ok false

theorem Blocked.looked (blocked : Blocked s disk path) :
    disk.exists? path = .ok true ∨ ∃ fault, disk.exists? path = .error fault := by
  cases looked : disk.exists? path with
  | error fault => exact .inr ⟨fault, rfl⟩
  | ok there =>
      cases there with
      | true => exact .inl rfl
      | false => exact absurd looked blocked.2

theorem forced_or_free (passed : ¬ Blocked s disk path) :
    s.mode.isForce = true ∨ s.mode.isForce = false ∧ disk.exists? path = .ok false := by
  cases force : s.mode.isForce with
  | true => exact .inl rfl
  | false => exact .inr ⟨rfl, Decidable.byContradiction fun held => passed ⟨force, held⟩⟩

/-- A text that is written whole: what stands in its place stops it, or it is written. -/
theorem deliver_whole (whole : s.atomicWrite.truthy = true) (disk : Disk) (path : FilePath)
    (text : String) :
    (Blocked s disk path ∧ ∃ stop, deliver s disk path text = ⟨disk, [], .error stop⟩) ∨
      ¬ Blocked s disk path ∧
        let attempt := Writer.write Validator.draft06 s.checkSchema.truthy disk path text
        (deliver s disk path text).disk = attempt.disk ∧
          ((deliver s disk path text).result = .ok () ↔ attempt.result = .ok ()) := by
  simp only [deliver, whole, if_true]
  by_cases blocked : Blocked s disk path
  · refine .inl ⟨blocked, ?_⟩
    simp only [blocked.1, Bool.false_eq_true, if_false, Writer.create]
    obtain there | ⟨fault, unknown⟩ := blocked.looked
    · simp only [there]
      exact ⟨_, rfl⟩
    · simp only [unknown]
      exact ⟨_, rfl⟩
  · refine .inr ⟨blocked, ?_⟩
    have same : (if s.mode.isForce then Writer.write else Writer.create) Validator.draft06
        s.checkSchema.truthy disk path text =
          Writer.write Validator.draft06 s.checkSchema.truthy disk path text := by
      rcases forced_or_free blocked with force | ⟨gentle, free⟩
      · rw [if_pos force]
      · simp only [gentle, Bool.false_eq_true, if_false, Writer.create, free]
    simp only [same]
    split
    · rename_i done
      exact ⟨rfl, by simp [done]⟩
    · rename_i fault failed
      exact ⟨rfl, by simp [failed]⟩

/-- A text that is written straight to its place: what stands there stops it, or it is put
there. -/
theorem deliver_direct (direct : s.atomicWrite.truthy = false) (disk : Disk) (path : FilePath)
    (text : String) :
    (Blocked s disk path ∧ ∃ stop, deliver s disk path text = ⟨disk, [], .error stop⟩) ∨
      ¬ Blocked s disk path ∧
        ((∃ fault left stop, deliver s disk path text = ⟨left, [], .error stop⟩ ∧
            disk.writeFile path text = .error (fault, left)) ∨
          ∃ after lines, deliver s disk path text = ⟨after, lines, .ok ()⟩ ∧
            disk.writeFile path text = .ok after) := by
  simp only [deliver, direct, Bool.false_eq_true, if_false, writeDirectly]
  by_cases blocked : Blocked s disk path
  · refine .inl ⟨blocked, ?_⟩
    simp only [blocked.1, Bool.false_eq_true, if_false]
    obtain there | ⟨fault, unknown⟩ := blocked.looked
    · simp only [there]
      exact ⟨_, rfl⟩
    · simp only [unknown]
      exact ⟨_, rfl⟩
  · have passed : (if s.mode.isForce then .ok false else disk.exists? path) = .ok false := by
      rcases forced_or_free blocked with force | ⟨gentle, free⟩
      · rw [if_pos force]
      · rw [gentle, free, ite_self]
    refine .inr ⟨blocked, ?_⟩
    simp only [passed]
    cases disk.writeFile path text with
    | ok after => exact .inr ⟨after, _, rfl, rfl⟩
    | error failed => exact .inl ⟨failed.1, failed.2, _, rfl, rfl⟩

theorem free_of_not_blocked (sound : disk.Sound) (passed : ¬ Blocked s disk path)
    (gentle : s.mode.isForce = false) : disk.find? path = none := by
  have free := ((forced_or_free passed).resolve_left (by simp [gentle])).2
  exact Option.not_isSome_iff_eq_none.mp (by simpa [holds] using exists?_eq_ok sound free)

/-- A text that is written is in its place, and nothing was there unless it was to be
replaced. -/
theorem deliver_wrote (sound : disk.Sound) (done : (deliver s disk path text).result = .ok ()) :
    disk.Wrote (deliver s disk path text).disk path text ∧
      (s.mode.isForce = false → disk.find? path = none) := by
  cases whole : s.atomicWrite.truthy with
  | true =>
      rcases deliver_whole whole disk path text with ⟨-, stop, same⟩ | ⟨passed, same, result⟩
      · rw [same] at done
        cases done
      · rw [same]
        exact ⟨Writer.wrote_of_write (result.mp done), free_of_not_blocked sound passed⟩
  | false =>
      rcases deliver_direct whole disk path text with
        ⟨-, stop, same⟩ | ⟨passed, ⟨fault, left, stop, same, -⟩ | ⟨after, lines, same, written⟩⟩
      · rw [same] at done
        cases done
      · rw [same] at done
        cases done
      · rw [same]
        exact ⟨wrote_of_writeFile written, free_of_not_blocked sound passed⟩

/-- The check of documents is never interrupted. -/
theorem draft06_not_interrupted {validate : Bool} {fault : WriteFault} (sound : disk.Sound)
    (failed : (Writer.write Validator.draft06 validate disk path text).result = .error fault) :
    fault.interrupts = false := by
  have kind (own : Draft06.Fault) : (own.failure.kind == .interrupted) = false := by
    cases own with
    | badPattern defect => cases defect <;> rfl
    | _ => rfl
  cases (Writer.write_error_iff sound).mp failed with
  | @rejected document failure placed asked read refused =>
      change (Draft06.check document).mapError Draft06.Fault.failure = .error failure at refused
      cases checked : Draft06.check document with
      | ok _ =>
          rw [checked] at refused
          cases refused
      | error own =>
          rw [checked] at refused
          exact Except.error.inj refused ▸ kind own
  | _ => rfl

/-- Where a text is not written, no more than folders on the way to its place are new; or it went
straight to its place, and the file there has been opened. -/
theorem deliver_left (sound : disk.Sound) (failed : (deliver s disk path text).result ≠ .ok ()) :
    disk.Kept (deliver s disk path text).disk path ∨
      s.atomicWrite.truthy = false ∧ disk.Emptied (deliver s disk path text).disk path text ∧
        (s.mode.isForce = false → disk.find? path = none) := by
  cases whole : s.atomicWrite.truthy with
  | true =>
      rcases deliver_whole whole disk path text with ⟨-, stop, same⟩ | ⟨-, same, result⟩
      · exact .inl (same ▸ .refl disk path)
      · rw [same]
        cases attempted :
            (Writer.write Validator.draft06 s.checkSchema.truthy disk path text).result with
        | ok _ => exact absurd (result.mpr attempted) failed
        | error fault =>
            have whole := draft06_not_interrupted sound attempted
            exact .inl ((Writer.left_of_write attempted).1 whole)
  | false =>
      rcases deliver_direct whole disk path text with
        ⟨-, stop, same⟩ | ⟨passed, ⟨fault, left, stop, same, written⟩ | ⟨after, lines, same, -⟩⟩
      · exact .inl (same ▸ .refl disk path)
      · rw [same]
        rcases left_of_writeFile written with rfl | emptied
        · exact .inl (.refl left path)
        · exact .inr ⟨rfl, emptied, free_of_not_blocked sound passed⟩
      · exact absurd (by rw [same]) failed

end Writing

/-! ## Runs that fail -/

/-- A run that fails for any reason prints no document, and changes no file: what was on the disk is
as before, and what is new are folders on the way to the place of the second operand.  Only where it
was to write straight to that place, and the text has no bytes, has the file there been opened, and
it alone. -/
theorem run_failed {disk : Disk} (sound : disk.Sound) (home : FilePath) (line : List String)
    (failed : (run home line disk).1.exit ≠ 0) :
    (run home line disk).1.out = "" ∧
      ((∀ place entry, disk.find? place = some entry →
            (run home line disk).2.find? place = some entry) ∧
          (∀ place entry, disk.find? place = none →
            (run home line disk).2.find? place = some entry →
              entry = .folder ∧ ∃ path, Outputs home line path ∧ place <+: path.parent) ∨
        ∃ order, prepare home line disk = .ok order ∧ Outputs home line order.path ∧
          order.settings.atomicWrite.truthy = false ∧
            disk.Emptied (run home line disk).2 order.path order.text) := by
  cases prepared : prepare home line disk with
  | error outcome =>
      obtain ⟨same, out⟩ := run_of_ended prepared
      rw [same] at failed ⊢
      refine ⟨out failed, .inl ⟨fun _ _ => id, fun place entry free there => ?_⟩⟩
      cases free.symm.trans there
  | ok order =>
      obtain ⟨after, out, exit⟩ := run_of_ordered prepared
      have stopped : (deliver order.settings disk order.path order.text).result ≠ .ok () :=
        fun done => failed (by rw [exit, if_pos done])
      have named := outputs_of_prepare prepared
      rw [after]
      rcases deliver_left sound stopped with kept | ⟨direct, emptied, -⟩
      · refine ⟨out, .inl ⟨kept.held, fun place entry free there => ?_⟩⟩
        rcases kept.new place free with none | ⟨onWay, folder⟩
        · cases none.symm.trans there
        · exact ⟨(Option.some.inj (folder.symm.trans there)).symm, order.path, named, onWay⟩
      · exact ⟨out, .inr ⟨order, rfl, named, direct, emptied⟩⟩

/-- A description, a configuration that asks for a check and for a layout that is no JSON, and an
old document. -/
def deskDisk : Disk :=
  ⟨[(["tree"], .file "\x7b\"kind\": \"nominal\", \"primitive\": \"string\"\x7d"),
    (["setup"], .file "\x7b\"output\": \x7b\"indent\": \"-\", \"check_schema\": true\x7d\x7d"),
    (["old"], .file "true")]⟩

def deskLine : List String := ["-c", "setup", "tree", "new/list"]

theorem run_failed_desk :
    deskDisk.Sound ∧ (run [] deskLine deskDisk).1.exit = 1 ∧
      (run [] deskLine deskDisk).1.out = "" ∧
      (run [] deskLine deskDisk).2.find? ["old"] = some (.file "true") ∧
      (run [] deskLine deskDisk).2.find? ["new"] = some .folder ∧
      ∃ path, Outputs [] deskLine path ∧ ["new"] <+: path.parent := by
  have sound : deskDisk.Sound := sound_of_entries (by decide)
  have exit : (run [] deskLine deskDisk).1.exit = 1 := by decide +kernel
  have made : (run [] deskLine deskDisk).2.find? ["new"] = some .folder := by decide +kernel
  have free : (run [] deskLine deskDisk).2.find? ["new", "list"] = none := by decide +kernel
  obtain ⟨out, ⟨held, new⟩ | ⟨order, -, ⟨arguments, input, written, read, operands, place⟩, -,
    emptied⟩⟩ := run_failed sound [] deskLine (by rw [exit]; decide)
  · exact ⟨sound, exit, out, held ["old"] _ rfl, made, (new ["new"] _ rfl made).2⟩
  · -- the text is written whole, and nothing is at its place
    obtain rfl := Except.ok.inj (read.symm.trans (by rfl : Arguments.read deskLine =
      .ok { config? := some "setup", operands := ["tree", "new/list"] }))
    obtain ⟨-, rfl⟩ : "tree" = input ∧ "new/list" = written := by simpa using operands
    have there : FilePath.resolve [] "new/list" = ["new", "list"] := rfl
    have opened := emptied.opened
    rw [place, there] at opened
    cases free.symm.trans opened

/-- A description, and a configuration that asks for a text without bytes to be written straight to
its place. -/
def strangeDisk : Disk :=
  ⟨[(["tree"], .file "\x7b\"kind\": \"nominal\", \"primitive\": \"string\"\x7d"),
    (["setup"], .file
      "\x7b\"output\": \x7b\"indent\": \"\\ud800\", \"atomic_write\": false\x7d\x7d"),
    (["old"], .file "true")]⟩

/-- A run that fails has made a file, and one that is to replace files has lost what was in one. -/
theorem run_failed_emptied :
    strangeDisk.Sound ∧
      (run [] ["-c", "setup", "tree", "list"] strangeDisk).1.exit = 1 ∧
      strangeDisk.find? ["list"] = none ∧
      (run [] ["-c", "setup", "tree", "list"] strangeDisk).2.find? ["list"] = some (.file "") ∧
      (run [] ["-f", "-c", "setup", "tree", "old"] strangeDisk).1.exit = 1 ∧
      strangeDisk.find? ["old"] = some (.file "true") ∧
      (run [] ["-f", "-c", "setup", "tree", "old"] strangeDisk).2.find? ["old"] =
        some (.file "") := by
  refine ⟨sound_of_entries (by decide), ?_⟩
  decide +kernel

end Command

end Draftsman
