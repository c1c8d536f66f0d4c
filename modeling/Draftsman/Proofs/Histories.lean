/-
# Draftsman.Proofs.Histories -- a disk after many writes

Calls of the writer follow one another, with any targets, and each finds the disk that the one
before it left (`Writer.run`).  They all check their texts; each has a judgement of its own, since a
validator need not answer twice in the same way.

The main result is `Writer.run_accounted`: on a disk that was sound, every place holds the text of
the last call that succeeded there, or else what it held at first; only folders on the way to a
target may be new, and beside a target the text of a call that was broken off.  So there is no file
besides, whenever one looks between two calls.  The texts that were written are those of accepted
documents, and a call that only creates changes nothing that is there.

What one call does to one place (`Call.find?_attempt`) is carried through the calls by induction.
-/
import Draftsman.Proofs.WholeWrites

namespace Draftsman

set_option autoImplicit false

namespace Writer

open Disk

/-! ## Calls -/

/-- A call of the writer: whether it only creates, its judgement, target and text. -/
structure Call where
  creates : Bool
  judge : Value → Except Failure Unit
  path : FilePath
  text : String

/-- Whether the text of a call is JSON and its document is accepted. -/
def Call.Accepted (call : Call) : Prop :=
  ∃ document, Json.read call.text = .ok document ∧ call.judge document = .ok ()

def Call.attempt (call : Call) (disk : Disk) : Attempt :=
  if call.creates then create (.ofJudgement call.judge) true disk call.path call.text
  else write (.ofJudgement call.judge) true disk call.path call.text

def Call.succeeds (call : Call) (disk : Disk) : Bool := (call.attempt disk).result.isOk

def Call.breaksOff (call : Call) (disk : Disk) : Bool :=
  match (call.attempt disk).result with
  | .ok () => false
  | .error fault => fault.interrupts

def run : Disk → List Call → Disk
  | disk, [] => disk
  | disk, call :: rest => run (call.attempt disk).disk rest

def successes : Disk → List Call → List Call
  | _, [] => []
  | disk, call :: rest =>
      let later := successes (call.attempt disk).disk rest
      if call.succeeds disk then call :: later else later

def brokenOff : Disk → List Call → List Call
  | _, [] => []
  | disk, call :: rest =>
      let later := brokenOff (call.attempt disk).disk rest
      if call.breaksOff disk then call :: later else later

def lastAt? (disk : Disk) (calls : List Call) (place : FilePath) : Option Call :=
  ((successes disk calls).filter fun call => call.path == place).getLast?

/-- What may stand at a place after some calls. -/
inductive Accounted (disk : Disk) (calls : List Call) (place : FilePath) : Option Entry → Prop where
  /-- The text of the last call that succeeded there. -/
  | written {call : Call} (last : lastAt? disk calls place = some call) :
      Accounted disk calls place (some (.file call.text))
  /-- What stood there at first. -/
  | untouched (none : lastAt? disk calls place = none) :
      Accounted disk calls place (disk.find? place)
  /-- A new folder on the way to the target of a call. -/
  | folder {call : Call} (none : lastAt? disk calls place = none)
      (free : disk.find? place = Option.none) (called : call ∈ calls)
      (onWay : place <+: call.path.parent) : Accounted disk calls place (some .folder)
  /-- The file of its own of a call that was broken off, beside its target. -/
  | leftover {call : Call} (none : lastAt? disk calls place = none)
      (free : disk.find? place = Option.none) (broken : call ∈ brokenOff disk calls)
      (beside : place.parent = call.path.parent) :
      Accounted disk calls place (some (.file call.text))

/-! ## One call -/

section Step

variable {disk : Disk} {call : Call}

/-- A call writes its text, or it only creates and leaves the disk as it is. -/
theorem Call.attempt_cases (call : Call) (disk : Disk) :
    call.attempt disk = write (.ofJudgement call.judge) true disk call.path call.text ∨
      ∃ fault, fault.interrupts = false ∧ call.attempt disk = ⟨disk, .error fault, none⟩ := by
  unfold Call.attempt
  split
  · unfold create
    split
    · exact .inr ⟨_, rfl, rfl⟩
    · exact .inr ⟨_, rfl, rfl⟩
    · exact .inl rfl
  · exact .inl rfl

theorem Call.succeeds_iff : call.succeeds disk = true ↔ (call.attempt disk).result = .ok () := by
  unfold Call.succeeds
  cases (call.attempt disk).result <;> simp [Except.isOk, Except.toBool]

theorem Call.breaksOff_iff : call.breaksOff disk = true ↔
    ∃ fault, (call.attempt disk).result = .error fault ∧ fault.interrupts = true := by
  unfold Call.breaksOff
  cases (call.attempt disk).result <;> simp

theorem Call.wrote (done : call.succeeds disk = true) :
    disk.Wrote (call.attempt disk).disk call.path call.text ∧ call.Accepted := by
  rw [Call.succeeds_iff] at done
  rcases call.attempt_cases disk with same | ⟨fault, -, same⟩
  · rw [same] at done ⊢
    exact ⟨wrote_of_write done, verdict_isOk.mp (passed_of_write done).2.1 rfl⟩
  · rw [same] at done
    cases done

/-- What a call leaves that does not succeed. -/
theorem Call.left (failed : call.succeeds disk = false) :
    disk.Kept (call.attempt disk).disk call.path ∨ call.breaksOff disk = true ∧
      disk.BrokenOff (call.attempt disk).disk call.path call.text := by
  rcases call.attempt_cases disk with same | ⟨fault, -, same⟩
  · cases result : (call.attempt disk).result with
    | ok _ =>
        have done := Call.succeeds_iff.mpr result
        rw [failed] at done
        cases done
    | error fault =>
        have left := left_of_write (same ▸ result)
        rw [← same] at left
        cases broken : fault.interrupts with
        | false => exact .inl (left.1 broken)
        | true => exact .inr ⟨Call.breaksOff_iff.mpr ⟨fault, result, broken⟩, left.2 broken⟩
  · rw [same]
    exact .inl (.refl disk call.path)

theorem Call.sound (sound : disk.Sound) (call : Call) : (call.attempt disk).disk.Sound := by
  rcases call.attempt_cases disk with same | ⟨fault, -, same⟩
  · exact same ▸ sound_of_write sound
  · exact same ▸ sound

/-- A call is broken off only where its judgement is an interruption. -/
theorem Call.interrupted (sound : disk.Sound) (broken : call.breaksOff disk = true) :
    ∃ document failure, call.judge document = .error failure ∧ failure.kind = .interrupted := by
  obtain ⟨fault, failed, interrupts⟩ := Call.breaksOff_iff.mp broken
  rcases call.attempt_cases disk with same | ⟨own, other, same⟩
  · rw [same, write_error_iff sound] at failed
    cases failed with
    | rejected _ _ _ refused => exact ⟨_, _, refused, by simpa [WriteFault.interrupts] using interrupts⟩
    | _ => cases interrupts
  · rw [same] at failed
    cases failed
    cases other.symm.trans interrupts

/-- What a call does to one place: it is its target and holds its text if it succeeds; another
place is as before, or holds a new folder on the way to the target, or the text if the call is
broken off. -/
theorem Call.find?_attempt (call : Call) (disk : Disk) (place : FilePath) :
    (call.succeeds disk = true ∧ call.path = place ∧
        (call.attempt disk).disk.find? place = some (.file call.text)) ∨
      (¬ (call.succeeds disk = true ∧ call.path = place) ∧
        ((call.attempt disk).disk.find? place = disk.find? place ∨
          disk.find? place = none ∧
            (place <+: call.path.parent ∧
                (call.attempt disk).disk.find? place = some .folder ∨
              call.breaksOff disk = true ∧ place.parent = call.path.parent ∧
                (call.attempt disk).disk.find? place = some (.file call.text)))) := by
  by_cases done : call.succeeds disk = true
  · obtain ⟨wrote, -⟩ := Call.wrote done
    by_cases same : call.path = place
    · exact .inl ⟨done, same, same ▸ wrote.target⟩
    · refine .inr ⟨fun both => same both.2, ?_⟩
      by_cases onWay : place <+: call.path.parent
      · obtain ⟨folder, free | before⟩ := wrote.folders place onWay
        · exact .inr ⟨free, .inl ⟨onWay, folder⟩⟩
        · exact .inl (folder.trans before.symm)
      · exact .inl (wrote.others place (Ne.symm same) onWay)
  · refine .inr ⟨fun both => done both.1, ?_⟩
    have unchanged {after : Disk} (kept : disk.Kept after call.path) :
        after.find? place = disk.find? place ∨
          disk.find? place = none ∧ place <+: call.path.parent ∧
            after.find? place = some .folder := by
      cases held : disk.find? place with
      | some entry => exact .inl (kept.held place entry held)
      | none =>
          rcases kept.new place held with free | folder
          · exact .inl free
          · exact .inr ⟨rfl, folder⟩
    rcases Call.left (by simpa using done) with kept | ⟨broken, kept, own, before, -, beside, free, after⟩
    · exact (unchanged kept).imp_right fun ⟨free, folder⟩ => ⟨free, .inl folder⟩
    · rw [after]
      by_cases same : place = own
      · rw [if_pos same]
        have absent : disk.find? place = none := by
          cases held : disk.find? place with
          | none => rfl
          | some entry => cases free.symm.trans (before.held own entry (same ▸ held))
        exact .inr ⟨absent, .inr ⟨broken, same ▸ beside, rfl⟩⟩
      · rw [if_neg same]
        exact (unchanged before).imp_right fun ⟨free, folder⟩ => ⟨free, .inl folder⟩

/-- No call clears a place. -/
theorem Call.free_before {place : FilePath}
    (free : (call.attempt disk).disk.find? place = none) : disk.find? place = none := by
  rcases call.find?_attempt disk place with ⟨-, -, held⟩ | ⟨-, same | ⟨before, -⟩⟩
  · cases free.symm.trans held
  · exact same.symm.trans free
  · exact before

/-- A call that only creates does not succeed where something is. -/
theorem Call.not_succeeds (sound : disk.Sound) (creates : call.creates = true)
    (held : disk.holds call.path = true) : call.succeeds disk = false := by
  rw [← Bool.not_eq_true, Call.succeeds_iff]
  simp only [Call.attempt, creates, if_true, create]
  cases looked : disk.exists? call.path with
  | error fault => nofun
  | ok there =>
      rw [exists?_eq_ok sound looked, held]
      nofun

/-- A call that only creates changes nothing that is there. -/
theorem Call.find?_of_creates (sound : disk.Sound) (creates : call.creates = true)
    {place : FilePath} {entry : Entry} (held : disk.find? place = some entry) :
    (call.attempt disk).disk.find? place = some entry := by
  rcases call.find?_attempt disk place with ⟨done, rfl, -⟩ | ⟨-, same | ⟨free, -⟩⟩
  · cases done.symm.trans (Call.not_succeeds sound creates (holds_iff.mpr ⟨entry, held⟩))
  · exact same.trans held
  · cases free.symm.trans held

end Step

/-! ## Many calls -/

variable {disk : Disk}

theorem run_append (disk : Disk) (first second : List Call) :
    run disk (first ++ second) = run (run disk first) second := by
  induction first generalizing disk with
  | nil => rfl
  | cons call rest ih => exact ih _

theorem run_sound (sound : disk.Sound) (calls : List Call) : (run disk calls).Sound := by
  induction calls generalizing disk with
  | nil => exact sound
  | cons call rest ih => exact ih (Call.sound sound call)

/-- The last success at a place is among the later calls, or else it is the first call. -/
theorem lastAt?_cons (disk : Disk) (call : Call) (rest : List Call) (place : FilePath) :
    lastAt? disk (call :: rest) place =
      (lastAt? (call.attempt disk).disk rest place).or
        (if call.succeeds disk = true ∧ call.path = place then some call else none) := by
  simp only [lastAt?, successes]
  by_cases done : call.succeeds disk = true
  · rw [if_pos done]
    by_cases same : call.path = place
    · rw [List.filter_cons_of_pos (by simpa using same), List.getLast?_cons, if_pos ⟨done, same⟩]
      cases List.getLast? _ <;> rfl
    · rw [List.filter_cons_of_neg (by simpa using same), if_neg fun both => same both.2,
        Option.or_none]
  · rw [if_neg done, if_neg fun both => done both.1, Option.or_none]

theorem mem_brokenOff_cons {call first : Call} {rest : List Call} :
    call ∈ brokenOff disk (first :: rest) ↔ first.breaksOff disk = true ∧ call = first ∨
      call ∈ brokenOff (first.attempt disk).disk rest := by
  simp only [brokenOff]
  split
  · rename_i broken
    simp [broken]
  · rename_i whole
    simp [whole]

/-- Every place is accounted for after some calls. -/
theorem find?_run (disk : Disk) (calls : List Call) (place : FilePath) :
    Accounted disk calls place ((run disk calls).find? place) := by
  induction calls generalizing disk with
  | nil => exact .untouched rfl
  | cons call rest ih =>
      have last := lastAt?_cons disk call rest place
      have later := ih (call.attempt disk).disk
      change Accounted _ _ _ ((run (call.attempt disk).disk rest).find? place)
      generalize (run (call.attempt disk).disk rest).find? place = found at later ⊢
      cases later with
      | written later => exact .written (by rw [last, later, Option.some_or])
      | untouched none =>
          -- no later call succeeds there: the first call decides
          rw [none, Option.none_or] at last
          rcases call.find?_attempt disk place with ⟨done, same, found⟩ |
            ⟨other, same | ⟨free, ⟨onWay, folder⟩ | ⟨broken, beside, found⟩⟩⟩
          · exact found ▸ .written (by rw [last, if_pos ⟨done, same⟩])
          · exact same ▸ .untouched (by rw [last, if_neg other])
          · exact folder ▸ .folder (by rw [last, if_neg other]) free List.mem_cons_self onWay
          · exact found ▸ .leftover (by rw [last, if_neg other]) free
              (mem_brokenOff_cons.mpr (.inl ⟨broken, rfl⟩)) beside
      | folder none free called onWay =>
          rw [none, Option.none_or] at last
          rcases call.find?_attempt disk place with ⟨-, -, held⟩ | ⟨other, -⟩
          · cases free.symm.trans held
          · exact .folder (by rw [last, if_neg other]) (Call.free_before free)
              (List.mem_cons_of_mem _ called) onWay
      | leftover none free broken beside =>
          rw [none, Option.none_or] at last
          rcases call.find?_attempt disk place with ⟨-, -, held⟩ | ⟨other, -⟩
          · cases free.symm.trans held
          · exact .leftover (by rw [last, if_neg other]) (Call.free_before free)
              (mem_brokenOff_cons.mpr (.inr broken)) beside

theorem successes_accepted (disk : Disk) (calls : List Call) :
    ∀ call ∈ successes disk calls, call.Accepted := by
  induction calls generalizing disk with
  | nil => simp [successes]
  | cons first rest ih =>
      simp only [successes]
      split
      · rename_i done
        exact List.forall_mem_cons.mpr ⟨(Call.wrote done).2, ih _⟩
      · exact ih _

theorem brokenOff_interrupted (sound : disk.Sound) (calls : List Call) :
    ∀ call ∈ brokenOff disk calls, ∃ document failure, call.judge document = .error failure ∧
      failure.kind = .interrupted := by
  induction calls generalizing disk with
  | nil => simp [brokenOff]
  | cons first rest ih =>
      intro call member
      rcases mem_brokenOff_cons.mp member with ⟨broken, rfl⟩ | later
      · exact Call.interrupted sound broken
      · exact ih (Call.sound sound first) call later

/-- After any calls on a disk that was sound, every place is accounted for: by the last call that
succeeded there, by what it held at first, as a new folder on the way to a target, or as the file of
its own of a call that was broken off.  Only a judgement that is interrupted breaks a call off.
Every text that was written is that of an accepted document.  No call that only creates changes what
is there when it is called. -/
theorem run_accounted {disk : Disk} (sound : disk.Sound) (calls : List Call) :
    (∀ place, Accounted disk calls place ((run disk calls).find? place)) ∧
      (∀ call ∈ successes disk calls, call.Accepted) ∧
      (∀ call ∈ brokenOff disk calls, ∃ document failure,
        call.judge document = .error failure ∧ failure.kind = .interrupted) ∧
      ∀ before call later, calls = before ++ call :: later → call.creates = true →
        ∀ place entry, (run disk before).find? place = some entry →
          (run disk (before ++ [call])).find? place = some entry := by
  refine ⟨find?_run disk calls, successes_accepted disk calls, brokenOff_interrupted sound calls, ?_⟩
  rintro before call later - creates place entry held
  rw [run_append]
  exact Call.find?_of_creates (run_sound sound before) creates held

/-- A call that writes, one that fails at the same place, one that only creates there, one below
it, one that leaves a folder, and one that is broken off. -/
def shelfCalls : List Call :=
  [⟨false, fun _ => .ok (), ["shelf", "list"], "[]"⟩,
    ⟨false, fun _ => .ok (), ["shelf", "list"], "["⟩,
    ⟨true, fun _ => .ok (), ["shelf", "list"], "0"⟩,
    ⟨false, fun _ => .ok (), ["shelf", "list", "new"], "1"⟩,
    ⟨true, fun _ => .error ⟨.invalidDocument, ""⟩, ["shelf", "new", "list"], "2"⟩,
    ⟨false, impatient, ["shelf", "list"], "3"⟩]

theorem run_accounted_shelf :
    shelfDisk.Sound ∧
      (successes shelfDisk shelfCalls).map Call.text = ["[]"] ∧
      (brokenOff shelfDisk shelfCalls).map Call.text = ["3"] ∧
      (∀ call ∈ successes shelfDisk shelfCalls, call.Accepted) ∧
      Accounted shelfDisk shelfCalls ["shelf", "list"] (some (.file "[]")) ∧
      Accounted shelfDisk shelfCalls ["shelf", "new"] (some .folder) ∧
      Accounted shelfDisk shelfCalls ["shelf", "new", "list"] none ∧
      Accounted shelfDisk shelfCalls ["shelf", ".list.00000000.tmp"] (some (.file "3")) ∧
      (run shelfDisk (shelfCalls.take 3)).find? ["shelf", "list"] = some (.file "[]") := by
  have sound : shelfDisk.Sound := sound_of_entries (by decide)
  obtain ⟨places, accepted, -, created⟩ := run_accounted sound shelfCalls
  refine ⟨sound, rfl, rfl, accepted, places _, places _, places _, places _, ?_⟩
  exact created (shelfCalls.take 2) shelfCalls[2] (shelfCalls.drop 3) rfl rfl _ _ rfl

end Writer

end Draftsman
