/-
# Draftsman.Proofs.Places -- what stands where on a disk

A disk is sound if all that stands below a place stands in a folder (`Disk.Sound`).  What is found
after a step is told place by place: after putting (`find?_put`), clearing (`find?_remove`) and
making folders (`Disk.Made`).

Folders can be made exactly on a way that is open, to a place that the disk takes
(`makeFolders_isOk`).  Else something bars the way (`Disk.Bars`): the text of the place, a name in it
or a file on it.  On a sound disk one of these comes first, and the fault tells of that one
(`makeFolders_error_iff`).  A place is reached through folders only (`reach_isOk`), and on a sound
disk nothing stands where none can be reached (`reach_error`).
-/
import Draftsman.Disk
import Mathlib.Data.List.Infix

namespace Draftsman

set_option autoImplicit false

namespace FilePath

/-- The places on the way to a place and the place itself, from the top down. -/
theorem ways_eq (path : FilePath) :
    path.ancestors ++ [path] = (List.range (path.length + 1)).map fun size => path.take size := by
  simp [ancestors, List.range_succ]

theorem mem_ways {path place : FilePath} : place ∈ path.ancestors ++ [path] ↔ place <+: path := by
  rw [ways_eq, List.mem_map]
  constructor
  · rintro ⟨size, -, rfl⟩
    exact List.take_prefix size path
  · intro part
    have length := part.length_le
    exact ⟨place.length, List.mem_range.mpr (by omega), (List.prefix_iff_eq_take.mp part).symm⟩

/-- A disk takes all names on the way to a place, and its own. -/
def NamesFit (path : FilePath) : Prop :=
  ∀ place : FilePath, place <+: path → place.nameFits = true

/-- A disk takes a place: its text, and all names in it. -/
structure Fits (path : FilePath) : Prop where
  text : path.textFits = true
  names : path.NamesFit

theorem prefix_parent {path place : FilePath} (part : place <+: path) (differ : place ≠ path) :
    place <+: path.parent := by
  have length := part.length_le
  have shorter : place.length ≠ path.length := fun same => differ (part.eq_of_length same)
  refine List.prefix_of_prefix_length_le part (List.dropLast_prefix path) ?_
  simp only [FilePath.parent, List.length_dropLast]
  omega

/-- What holds on the whole way to a place holds there, and on the way to its parent. -/
theorem forall_prefix_iff {path : FilePath} {holds : FilePath → Prop} :
    (∀ place, place <+: path → holds place) ↔
      holds path ∧ ∀ place, place <+: path.parent → holds place := by
  constructor
  · exact fun all => ⟨all path List.prefix_rfl,
      fun place part => all place (part.trans (List.dropLast_prefix path))⟩
  · rintro ⟨own, above⟩ place part
    by_cases same : place = path
    · exact same ▸ own
    · exact above place (prefix_parent part same)

@[simp] theorem parent_concat (path : FilePath) (name : String) :
    FilePath.parent (path ++ [name]) = path := List.dropLast_concat

theorem ne_of_mem_ancestors {path place : FilePath} (above : place ∈ path.ancestors) :
    place ≠ path := by
  rintro rfl
  obtain ⟨size, within, same⟩ := List.mem_map.mp above
  have shorter := congrArg List.length same
  rw [List.length_take] at shorter
  have within := List.mem_range.mp within
  omega

end FilePath

namespace Disk

variable {disk ready : Disk} {path place other : FilePath} {entry : Entry}

/-! ## Single places -/

@[simp] theorem find?_top (disk : Disk) : disk.find? [] = some .folder := rfl

theorem isFolder_iff : disk.isFolder place = true ↔ disk.find? place = some .folder := by
  simp [isFolder]

theorem below_of_not_folder (other : disk.find? path ≠ some .folder) : path ≠ [] := by
  rintro rfl
  exact other rfl

theorem holds_iff : disk.holds place = true ↔ ∃ entry, disk.find? place = some entry := by
  rw [holds, Option.isSome_iff_exists]

theorem lookup_putIn_of_ne (differ : other ≠ path) (entry : Entry)
    (entries : List (FilePath × Entry)) :
    (putIn path entry entries).lookup other = entries.lookup other := by
  induction entries with
  | nil => simp [putIn, List.lookup_cons, beq_false_of_ne differ]
  | cons first rest ih =>
      obtain ⟨own, held⟩ := first
      unfold putIn
      split
      · rename_i same
        subst same
        simp [List.lookup_cons, beq_false_of_ne differ]
      · rw [List.lookup_cons, List.lookup_cons, ih]

/-- What is put at a place below the top is found there, and the rest as before. -/
theorem find?_put (below : path ≠ []) (disk : Disk) (entry : Entry) (place : FilePath) :
    (disk.put path entry).find? place = if place = path then some entry else disk.find? place := by
  split
  · rename_i same
    exact same ▸ find?_put_self below disk entry
  · rename_i differ
    simp only [find?, put, lookup_putIn_of_ne differ]

/-- A place below the top is free once it is cleared, and the rest is as before. -/
theorem find?_remove (below : path ≠ []) (disk : Disk) (place : FilePath) :
    (disk.remove path).find? place = if place = path then none else disk.find? place := by
  have cleared : (disk.entries.filter fun e => e.1 != path).lookup place =
      if place = path then none else disk.entries.lookup place := by
    induction disk.entries with
    | nil => simp
    | cons first rest ih =>
        by_cases gone : first.1 = path
        · rw [List.filter_cons_of_neg (by simp [gone]), ih]
          split
          · rfl
          · rename_i differ
            rw [List.lookup_cons, beq_false_of_ne (gone ▸ differ)]
        · rw [List.filter_cons_of_pos (by simp [gone]), List.lookup_cons, List.lookup_cons, ih]
          split
          · rename_i same
            rw [eq_of_beq same, if_neg gone]
          · rfl
  simp only [find?, remove, cleared]
  split
  · rename_i top
    rw [if_neg fun same : place = path => below (same.symm.trans top)]
  · rfl

/-! ## Sound disks -/

/-- A disk as there can be one: what stands below a place stands in a folder. -/
def Sound (disk : Disk) : Prop :=
  ∀ ⦃place other : FilePath⦄ ⦃entry : Entry⦄, disk.find? other = some entry → place <+: other →
    place ≠ other → disk.find? place = some .folder

/-- A disk is sound if each of its entries stands in folders. -/
theorem sound_of_entries
    (each : ∀ held ∈ disk.entries, ∀ place ∈ held.1.ancestors, disk.isFolder place = true) :
    disk.Sound := by
  intro place other entry there part differ
  by_cases top : other = []
  · subst top
    exact absurd (List.prefix_nil.mp part) differ
  · rw [find?, if_neg top] at there
    obtain ⟨before, after, whole, -⟩ := List.lookup_eq_some_iff.mp there
    have above : place ∈ other.ancestors :=
      (List.mem_append.mp (FilePath.mem_ways.mpr part)).resolve_right (by simpa using differ)
    exact isFolder_iff.mp (each (other, entry) (by simp [whole]) place above)

/-- No file stands on the way to a place, nor at the place. -/
def Open (disk : Disk) (path : FilePath) : Prop :=
  ∀ place, place <+: path → disk.find? place = none ∨ disk.find? place = some .folder

/-! ## Making folders -/

/-- A disk with folders on all of the way to a place, where no file was, and else as before. -/
structure Made (disk ready : Disk) (path : FilePath) : Prop where
  clear : disk.Open path
  folders : ∀ place, ready.find? place = if place <+: path then some .folder else disk.find? place

/-- What keeps folders from being made on the way to a place, and the fault that tells of it. -/
inductive Bars (disk : Disk) (path : FilePath) : DiskFault → Prop where
  /-- The text of the place is too long. -/
  | text (long : path.textFits = false) : Bars disk path .tooLong
  /-- A name is too long, and no file comes before it. -/
  | name {place : FilePath} (short : path.textFits = true) (onWay : place <+: path)
      (clear : disk.Open place.parent) (long : place.nameFits = false) : Bars disk path .tooLong
  /-- A file stands on the way or at its end, and no name up to it is too long. -/
  | file {place : FilePath} {text : String} (short : path.textFits = true) (onWay : place <+: path)
      (names : place.NamesFit) (held : disk.find? place = some (.file text)) :
      Bars disk path (if place = path then .occupied place else .notFolder)

/-- A folder that is there is one that has been made. -/
theorem made_of_reached (reached : ∀ place, place <+: path → disk.find? place = some .folder) :
    disk.Made disk path := by
  refine ⟨fun place part => .inr (reached place part), fun place => ?_⟩
  split
  · rename_i part
    exact reached place part
  · rfl

/-- One more folder on a way that is open changes what is on the way only. -/
theorem Made.of_put {name : String} (free : disk.find? (path ++ [name]) = none)
    (made : (disk.put (path ++ [name]) .folder).Made ready other)
    (onWay : path ++ [name] <+: other) : disk.Made ready other := by
  have put := @find?_put (path ++ [name]) (by simp) disk .folder
  refine ⟨fun place part => ?_, fun place => ?_⟩
  · by_cases same : place = path ++ [name]
    · exact .inl (same ▸ free)
    · have clear := made.clear place part
      rwa [put, if_neg same] at clear
  · rw [made.folders, put]
    split
    · rfl
    · rename_i apart
      rw [if_neg]
      rintro rfl
      exact apart onWay

theorem Bars.of_put {name : String} {fault : DiskFault} (free : disk.find? (path ++ [name]) = none)
    (bars : (disk.put (path ++ [name]) .folder).Bars other fault) : disk.Bars other fault := by
  have put := @find?_put (path ++ [name]) (by simp) disk .folder
  cases bars with
  | text long => exact .text long
  | name short onWay clear long =>
      refine .name short onWay (fun place part => ?_) long
      by_cases same : place = path ++ [name]
      · exact .inl (same ▸ free)
      · have clear := clear place part
        rwa [put, if_neg same] at clear
  | file short onWay names held =>
      rw [put] at held
      split at held
      · cases held
      · exact .file short onWay names held

/-- What comes of making folders below one that is there: they have been made, or something bars the
way, and those before it have been made. -/
theorem makeBelow_cases {names : List String} (reached : ∀ place, place <+: path →
      disk.find? place = some .folder) (fits : path.NamesFit)
    (short : (path ++ names).textFits = true) :
    (∃ ready, disk.makeBelow path names = .ok ready ∧ disk.Made ready (path ++ names) ∧
        (path ++ names).NamesFit) ∨
      ∃ fault left made, disk.makeBelow path names = .error (fault, left) ∧
        disk.Bars (path ++ names) fault ∧ path <+: made ∧ made <+: path ++ names ∧
          disk.Made left made := by
  induction names generalizing disk path with
  | nil =>
      rw [List.append_nil]
      exact .inl ⟨disk, rfl, made_of_reached reached, fits⟩
  | cons name rest ih =>
      have whole : path ++ name :: rest = (path ++ [name]) ++ rest := by simp
      have onWay : path ++ [name] <+: path ++ name :: rest := whole ▸ List.prefix_append _ _
      have here := made_of_reached reached
      simp only [makeBelow]
      cases long : (path ++ [name]).nameFits with
      | false =>
          have clear : disk.Open (FilePath.parent (path ++ [name])) := by simpa using here.clear
          exact .inr ⟨.tooLong, disk, path, rfl, .name short onWay clear long, List.prefix_rfl,
            List.prefix_append _ _, here⟩
      | true =>
          have fits' : (path ++ [name]).NamesFit :=
            FilePath.forall_prefix_iff.mpr ⟨long, by rwa [FilePath.parent_concat]⟩
          simp only [Bool.not_true, Bool.false_eq_true, if_false]
          cases held : disk.find? (path ++ [name]) with
          | none =>
              have put := @find?_put (path ++ [name]) (by simp) disk .folder
              have reached' : ∀ place, place <+: path ++ [name] →
                  (disk.put (path ++ [name]) .folder).find? place = some .folder := by
                refine FilePath.forall_prefix_iff.mpr ⟨by rw [put, if_pos rfl], ?_⟩
                rw [FilePath.parent_concat]
                intro place part
                rw [put, reached place part, ite_self]
              rw [whole]
              rcases ih reached' fits' (whole ▸ short) with
                ⟨ready, done, made, names⟩ | ⟨fault, left, made, failed, bars, below, part, there⟩
              · exact .inl ⟨ready, done, made.of_put held (List.prefix_append _ _), names⟩
              · exact .inr ⟨fault, left, made, failed, bars.of_put held,
                  (List.prefix_append _ _).trans below, part, there.of_put held below⟩
          | some entry =>
              cases entry with
              | folder =>
                  have reached' : ∀ place, place <+: path ++ [name] →
                      disk.find? place = some .folder :=
                    FilePath.forall_prefix_iff.mpr ⟨held, by simpa using reached⟩
                  rw [whole]
                  rcases ih reached' fits' (whole ▸ short) with
                    done | ⟨fault, left, made, failed, bars, below, rest⟩
                  · exact .inl done
                  · exact .inr ⟨fault, left, made, failed, bars,
                      (List.prefix_append _ _).trans below, rest⟩
              | file text =>
                  have last : (path ++ [name] = path ++ name :: rest) = (rest.isEmpty = true) := by
                    cases rest <;> simp
                  have bars := Bars.file short onWay fits' held
                  simp only [last] at bars
                  exact .inr ⟨_, disk, path, rfl, bars, List.prefix_rfl, List.prefix_append _ _,
                    here⟩

theorem makeFolders_cases (disk : Disk) (path : FilePath) :
    (∃ ready, disk.makeFolders path = .ok ready ∧ disk.Made ready path ∧ path.Fits) ∨
      ∃ fault left made, disk.makeFolders path = .error (fault, left) ∧ disk.Bars path fault ∧
        made <+: path ∧ disk.Made left made := by
  have top : ∀ place : FilePath, place <+: [] → disk.find? place = some .folder := by
    intro place part
    rw [List.prefix_nil.mp part, find?_top]
  have fits : FilePath.NamesFit [] := by
    intro place part
    rw [List.prefix_nil.mp part]
    rfl
  unfold makeFolders
  cases short : path.textFits with
  | false =>
      exact .inr ⟨.tooLong, disk, [], rfl, .text short, List.nil_prefix, made_of_reached top⟩
  | true =>
      rcases @makeBelow_cases disk [] path top fits short with
        ⟨ready, done, made, names⟩ | ⟨fault, left, made, failed, bars, -, part, there⟩
      · exact .inl ⟨ready, done, made, short, names⟩
      · exact .inr ⟨fault, left, made, failed, bars, part, there⟩

/-- Nothing bars a way that is open to a place that the disk takes. -/
theorem Bars.not_open {fault : DiskFault} (bars : disk.Bars path fault) (clear : disk.Open path) :
    ¬ path.Fits := by
  rintro ⟨short, fits⟩
  cases bars with
  | text long => cases long.symm.trans short
  | name _ onWay _ long => cases long.symm.trans (fits _ onWay)
  | file _ onWay _ held =>
      rcases clear _ onWay with free | folder
      · cases free.symm.trans held
      · cases folder.symm.trans held

theorem makeFolders_isOk :
    (∃ ready, disk.makeFolders path = .ok ready) ↔ disk.Open path ∧ path.Fits := by
  rcases makeFolders_cases disk path with
    ⟨ready, done, made, fits⟩ | ⟨fault, left, -, failed, bars, -⟩
  · exact ⟨fun _ => ⟨made.clear, fits⟩, fun _ => ⟨ready, done⟩⟩
  · rw [failed]
    exact ⟨nofun, fun both => absurd both.2 (bars.not_open both.1)⟩

theorem made_of_makeFolders (done : disk.makeFolders path = .ok ready) : disk.Made ready path := by
  rcases makeFolders_cases disk path with ⟨own, done', made, -⟩ | ⟨_, _, _, failed, -⟩
  · rwa [Except.ok.inj (done.symm.trans done')]
  · cases done.symm.trans failed

theorem made_of_not_makeFolders {fault : DiskFault} {left : Disk}
    (failed : disk.makeFolders path = .error (fault, left)) :
    disk.Bars path fault ∧ ∃ made, made <+: path ∧ disk.Made left made := by
  rcases makeFolders_cases disk path with ⟨_, done, -⟩ | ⟨_, _, made, failed', bars, rest⟩
  · cases failed.symm.trans done
  · obtain ⟨rfl, rfl⟩ := Prod.mk.inj (Except.error.inj (failed.symm.trans failed'))
    exact ⟨bars, made, rest⟩

/-- On a sound disk, one file at most stands on the way to a place. -/
theorem Sound.file_unique (sound : disk.Sound) {first second : FilePath} {text text' : String}
    (held : disk.find? first = some (.file text)) (held' : disk.find? second = some (.file text'))
    (onWay : first <+: path) (onWay' : second <+: path) : first = second := by
  by_contra differ
  rcases List.prefix_or_prefix_of_prefix onWay onWay' with inner | outer
  · cases held.symm.trans (sound held' inner differ)
  · cases held'.symm.trans (sound held outer (Ne.symm differ))

/-- A name that is too long and a file do not both come first. -/
theorem Bars.name_or_file {long file : FilePath} {text : String} (onWay : long <+: path)
    (clear : disk.Open long.parent) (tooLong : long.nameFits = false) (onWay' : file <+: path)
    (names : file.NamesFit) (held : disk.find? file = some (.file text)) : False := by
  rcases List.prefix_or_prefix_of_prefix onWay onWay' with inner | outer
  · cases tooLong.symm.trans (names long inner)
  · have differ : file ≠ long := fun same => by
      cases tooLong.symm.trans (names long (same ▸ List.prefix_rfl))
    rcases clear file (FilePath.prefix_parent outer differ) with free | folder
    · cases free.symm.trans held
    · cases folder.symm.trans held

/-- On a sound disk, one thing at most bars the way to a place. -/
theorem Bars.unique (sound : disk.Sound) {fault fault' : DiskFault} (bars : disk.Bars path fault)
    (bars' : disk.Bars path fault') : fault = fault' := by
  cases bars with
  | text long =>
      cases bars' with
      | text => rfl
      | name => rfl
      | file short => cases long.symm.trans short
  | name short onWay clear long =>
      cases bars' with
      | text => rfl
      | name => rfl
      | file _ onWay' names held => exact (name_or_file onWay clear long onWay' names held).elim
  | file short onWay names held =>
      cases bars' with
      | text long => cases long.symm.trans short
      | name _ onWay' clear long => exact (name_or_file onWay' clear long onWay names held).elim
      | file _ onWay' _ held' => rw [sound.file_unique held held' onWay onWay']

theorem makeFolders_error_iff (sound : disk.Sound) {fault : DiskFault} :
    (∃ left, disk.makeFolders path = .error (fault, left)) ↔ disk.Bars path fault := by
  constructor
  · rintro ⟨left, failed⟩
    exact (made_of_not_makeFolders failed).1
  · intro bars
    rcases makeFolders_cases disk path with ⟨_, _, made, fits⟩ | ⟨own, left, _, failed, bars', -⟩
    · exact absurd fits (bars.not_open made.clear)
    · exact ⟨left, bars.unique sound bars' ▸ failed⟩

theorem Sound.made (sound : disk.Sound) (made : disk.Made ready path) : ready.Sound := by
  intro place other entry there part differ
  rw [made.folders] at there ⊢
  split
  · rfl
  · rename_i apart
    rw [if_neg fun whole => apart (part.trans whole)] at there
    exact sound there part differ

theorem Sound.congr (sound : disk.Sound) {after : Disk}
    (same : ∀ place, after.find? place = disk.find? place) : after.Sound := by
  intro place other entry there part differ
  rw [same] at there ⊢
  exact sound there part differ

/-- A disk stays sound when a file is put into a folder, where no folder is. -/
theorem Sound.put (sound : disk.Sound) {after : Disk} {text : String}
    (folder : disk.find? path.parent = some .folder) (free : disk.find? path ≠ some .folder)
    (put : ∀ place, after.find? place =
      if place = path then some (.file text) else disk.find? place) : after.Sound := by
  intro place other entry there part differ
  rw [put] at there ⊢
  have apart : place ≠ path := by
    rintro rfl
    rw [if_neg (Ne.symm differ)] at there
    exact free (sound there part differ)
  rw [if_neg apart]
  split at there
  · rename_i same
    subst same
    have inside := FilePath.prefix_parent part differ
    by_cases same : place = other.parent
    · exact same ▸ folder
    · exact sound folder inside same
  · exact sound there part differ

/-! ## Going to a place -/

/-- The places on the way to a place below the top are its parent and those on the way to it. -/
theorem mem_ancestors (below : path ≠ []) : place ∈ path.ancestors ↔ place <+: path.parent := by
  simp only [FilePath.ancestors, FilePath.parent, List.mem_map, List.mem_range]
  have length := List.length_pos_iff.mpr below
  constructor
  · rintro ⟨size, within, rfl⟩
    rw [List.dropLast_eq_take, List.prefix_take_iff]
    exact ⟨List.take_prefix size path, by rw [List.length_take]; omega⟩
  · intro part
    have shorter := part.length_le
    rw [List.length_dropLast] at shorter
    exact ⟨place.length, by omega,
      (List.prefix_iff_eq_take.mp (part.trans (List.dropLast_prefix path))).symm⟩

theorem obstacle?_eq_none :
    disk.obstacle? place = none ↔ place.nameFits = true ∧ disk.find? place = some .folder := by
  unfold obstacle?
  cases place.nameFits with
  | false => simp
  | true =>
      cases disk.find? place with
      | none => simp
      | some entry => cases entry <;> simp

theorem obstacle?_eq_some {fault : DiskFault} (found : disk.obstacle? place = some fault) :
    fault = .tooLong ∧ place.nameFits = false ∨
      fault ≠ .tooLong ∧ disk.find? place ≠ some .folder := by
  unfold obstacle? at found
  split at found
  · rename_i long
    exact .inl ⟨(Option.some.inj found).symm, by simpa using long⟩
  · split at found
    · cases found
    · rename_i text held
      exact .inr ⟨Option.some.inj found ▸ by decide, by simp [held]⟩
    · rename_i free
      exact .inr ⟨Option.some.inj found ▸ by decide, by simp [free]⟩

/-- A place is reached through folders, if the disk takes it. -/
theorem reach_isOk (below : path ≠ []) :
    disk.reach path = .ok () ↔ path.Fits ∧
      ∀ place, place <+: path.parent → disk.find? place = some .folder := by
  have names : path.NamesFit ↔ path.nameFits = true ∧ path.parent.NamesFit :=
    FilePath.forall_prefix_iff
  have free : path.ancestors.findSome? disk.obstacle? = none ↔ path.parent.NamesFit ∧
      ∀ place, place <+: path.parent → disk.find? place = some .folder := by
    simp only [List.findSome?_eq_none_iff, obstacle?_eq_none, mem_ancestors below]
    exact ⟨fun each => ⟨fun place part => (each place part).1, fun place part => (each place part).2⟩,
      fun both place part => ⟨both.1 place part, both.2 place part⟩⟩
  unfold reach
  constructor
  · intro reached
    split at reached
    · cases reached
    · rename_i short
      split at reached
      · cases reached
      · rename_i clear
        split at reached
        · rename_i own
          obtain ⟨above, folders⟩ := free.mp clear
          exact ⟨⟨by simpa using short, names.mpr ⟨own, above⟩⟩, folders⟩
        · cases reached
  · rintro ⟨⟨short, fits⟩, folders⟩
    obtain ⟨own, above⟩ := names.mp fits
    simp [short, free.mpr ⟨above, folders⟩, own]

/-- On a sound disk, a place is not reached because it is too long, or nothing stands there. -/
theorem reach_error (sound : disk.Sound) {fault : DiskFault} (failed : disk.reach path = .error fault) :
    fault = .tooLong ∧ ¬ path.Fits ∨ fault ≠ .tooLong ∧ disk.find? path = none := by
  unfold reach at failed
  split at failed
  · rename_i long
    refine .inl ⟨(Except.error.inj failed).symm, fun fits => ?_⟩
    simp [fits.text] at long
  · split at failed
    · rename_i own found
      obtain rfl := Except.error.inj failed
      obtain ⟨place, above, obstacle⟩ := List.exists_of_findSome?_eq_some found
      have onWay := FilePath.mem_ways.mp (List.mem_append_left [path] above)
      rcases obstacle?_eq_some obstacle with ⟨rfl, long⟩ | ⟨other, noFolder⟩
      · refine .inl ⟨rfl, fun fits => ?_⟩
        cases long.symm.trans (fits.names place onWay)
      · refine .inr ⟨other, ?_⟩
        cases there : disk.find? path with
        | none => rfl
        | some entry =>
            exact absurd (sound there onWay (FilePath.ne_of_mem_ancestors above)) noFolder
    · split at failed
      · cases failed
      · rename_i long
        exact .inl ⟨(Except.error.inj failed).symm,
          fun fits => long (fits.names path List.prefix_rfl)⟩

/-- On a sound disk, nothing stands where one cannot go, if it is not too long. -/
theorem exists?_eq_ok (sound : disk.Sound) {held : Bool} (looked : disk.exists? path = .ok held) :
    held = disk.holds path := by
  unfold exists? at looked
  split at looked
  · cases looked
  · rename_i fault other failed
    obtain ⟨same, -⟩ | ⟨-, free⟩ := reach_error sound failed
    · exact absurd same other
    · rw [holds, free, ← Except.ok.inj looked]
      rfl
  · exact (Except.ok.inj looked).symm

end Disk

end Draftsman
