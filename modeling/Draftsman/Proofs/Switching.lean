/-
# Draftsman.Proofs.Switching -- texts that are written whole and texts that are not

The settings say whether a text is written whole or straight to its place.  Unless they ask for it,
neither way touches what is there; and where a text can be written at all, both ways come to the
same (`run_either_way`).  A disk may take the name of a place that leaves no room for the name of the
file beside it; there only the straight way works (`run_either_way_long`).

Two configurations that differ in that setting alone (`Options.Switched`) give alike options, so
that the runs agree up to the text that they write (`prepare_switched`).  There they agree on
whether it is written (`deliver_isOk`), and on what is on the disk then.

A text that is to be checked is read again before it is written whole.  What it is read as has
passed the check already, if reading undoes writing (`Order.ReadsBack`).
-/
import Draftsman.Proofs.Delivery
import Draftsman.Proofs.Encodable
import Draftsman.Proofs.Grammar
import Draftsman.Proofs.Preferences
import Draftsman.Proofs.Settling
import Mathlib

namespace Draftsman

set_option autoImplicit false

/-! ## Settings and options -/

/-- Settings that differ in whether texts are written whole, if at all. -/
structure OutputSettings.Alike (s other : OutputSettings) : Prop where
  mode : other.mode = s.mode
  indent : other.indent = s.indent
  checkSchema : other.checkSchema = s.checkSchema

theorem OutputSettings.Alike.refl (s : OutputSettings) : s.Alike s := ⟨rfl, rfl, rfl⟩

/-- Dictionaries of settings that differ in whether texts are written whole, if at all, describe
settings that do. -/
theorem OutputSettings.ofDict_alike {own other : Members}
    (same : ∀ name, name ≠ "atomic_write" → Members.get? name other = Members.get? name own) :
    Agree OutputSettings.Alike (OutputSettings.ofDict own) (OutputSettings.ofDict other) := by
  simp only [OutputSettings.ofDict, same "mode" (by decide), same "indent" (by decide),
    same "check_schema" (by decide)]
  -- with a mode or without one
  split
  all_goals
    refine Agree.bind (.same _) fun equal => ?_
    exact .ok ⟨equal, rfl, rfl⟩

namespace Options

/-- Options that differ in whether texts are written whole, if at all. -/
structure Alike (o other : Options) : Prop where
  root : other.root = o.root
  loose : other.loose = o.loose
  maxDepth : other.maxDepth = o.maxDepth
  output : other.output = o.output ∨
    ∃ s t, o.output = .settings s ∧ other.output = .settings t ∧ s.Alike t

theorem Alike.refl (o : Options) : o.Alike o := ⟨rfl, rfl, rfl, .inl rfl⟩

variable {o other : Options}

theorem Alike.settings (alike : o.Alike other) :
    Agree OutputSettings.Alike o.settings other.settings := by
  simp only [Options.settings]
  rcases alike.output with same | ⟨s, t, own, others, settings⟩
  · rw [same]
    exact .refl OutputSettings.Alike.refl _
  · rw [own, others]
    exact .ok settings

theorem Alike.hasOutput (alike : o.Alike other) : other.hasOutput = o.hasOutput := by
  simp only [Options.hasOutput]
  rcases alike.output with same | ⟨s, t, own, others, -⟩
  · rw [same]
  · rw [own, others]

theorem Alike.assign (alike : o.Alike other) (name : String) (v : Value) :
    Agree Alike (o.assign name v) (other.assign name v) := by
  obtain ⟨root, loose, maxDepth, output⟩ := alike
  simp only [Options.assign]
  split
  · exact .ok ⟨rfl, loose, maxDepth, output⟩
  · exact .ok ⟨root, rfl, maxDepth, output⟩
  · exact .ok ⟨root, loose, rfl, output⟩
  · exact .ok ⟨root, loose, maxDepth, .inl rfl⟩
  · exact .ok ⟨root, loose, maxDepth, output⟩
  · exact .error _
  · exact .error _
  · split
    · exact .ok (.refl _)
    · exact .error _
  · exact .ok ⟨root, loose, maxDepth, output⟩

theorem Alike.configure (alike : o.Alike other) (key v : Value) :
    Agree Alike (o.configure key v) (other.configure key v) := by
  simp only [Options.configure, alike.hasOutput]
  split
  · exact .error _
  · split
    · split
      · refine Agree.bind (.refl OutputSettings.Alike.refl _) fun settings => ?_
        exact .ok ⟨alike.root, alike.loose, alike.maxDepth, .inr ⟨_, _, rfl, rfl, settings⟩⟩
      · split
        · exact alike.assign _ _
        · exact .ok alike
    · exact alike.assign _ _

theorem Alike.configureAll (alike : o.Alike other) (members : Members) :
    Agree Alike (o.configureAll members) (other.configureAll members) := by
  induction members generalizing o other with
  | nil => exact .ok alike
  | cons member rest ih => exact .bind (alike.configure member.1 member.2) fun next => ih next

theorem configureAll_append (o : Options) (first second : Members) :
    o.configureAll (first ++ second) = o.configureAll first >>= fun next =>
      next.configureAll second := by
  induction first generalizing o with
  | nil => rfl
  | cons member rest ih =>
      obtain ⟨k, v⟩ := member
      change (o.configure k v).bind (fun next => next.configureAll (rest ++ second)) =
        ((o.configure k v).bind fun next => next.configureAll rest).bind _
      cases o.configure k v with
      | ok next => exact ih next
      | error fault => rfl

/-- Two configurations that differ in whether texts are written whole, if at all. -/
inductive Switched : Value → Value → Prop where
  | output {before own other after : Members}
      (same : ∀ name, name ≠ "atomic_write" → Members.get? name other = Members.get? name own) :
      Switched (.dict (before ++ (.str "output", .dict own) :: after))
        (.dict (before ++ (.str "output", .dict other) :: after))

variable {config config' : Value}

/-- Configurations that differ in whether texts are written whole give options that do. -/
theorem Switched.ofDict (switched : Switched config config') :
    Agree Alike (Options.ofDict config) (Options.ofDict config') := by
  cases switched with
  | output same =>
      simp only [Options.ofDict, configureAll_append]
      refine .bind ((Alike.refl _).configureAll _) fun alike => ?_
      refine Agree.bind ?_ fun next => Alike.configureAll next _
      refine .bind (OutputSettings.ofDict_alike same) fun settings => ?_
      exact .ok ⟨alike.root, alike.loose, alike.maxDepth, .inr ⟨_, _, rfl, rfl, settings⟩⟩

/-- Beside its output, a configuration is not changed. -/
theorem Switched.get? {before own other after : Members} {name : String}
    (differ : name ≠ "output") :
    Members.get? name (before ++ (.str "output", .dict other) :: after) =
      Members.get? name (before ++ (.str "output", .dict own) :: after) := by
  induction before with
  | nil =>
      simp only [List.nil_append, Members.get?_cons, Value.text?, Option.some.injEq]
      rw [if_neg (Ne.symm differ), if_neg (Ne.symm differ)]
  | cons member rest ih => simp only [List.cons_append, Members.get?_cons, ih]

end Options

/-! ## Descriptions -/

namespace Node

/-- What a dictionary loads as has nothing to do with its output. -/
theorem load_congr {members other : Members}
    (same : ∀ name, name ≠ "output" → Members.get? name other = Members.get? name members) :
    load (.dict other) = load (.dict members) := by
  have offered : ∀ name, name ≠ "output" →
      Offer.find? name (offers other) = Offer.find? name (offers members) := by
    intro name differ
    rw [Offer.find?_offers, Offer.find?_offers, same name differ]
  have node (kind : NodeKind) (notes : Value) :
      Draft.node ⟨other, offers other, [], kind⟩ notes =
        Draft.node ⟨members, offers members, [], kind⟩ notes := by
    cases kind <;>
      simp only [Draft.node, Draft.primitive, Draft.child, Draft.schemaChild, Draft.alternatives,
        Draft.keys, Draft.operand, Draft.values, Draft.required, Draft.field, Draft.offer,
        Draft.missing, Draft.place, same "primitive" (by decide), same "name" (by decide),
        same "operand" (by decide), same "schema" (by decide), same "required" (by decide),
        same "values" (by decide), offered "type" (by decide), offered "rule" (by decide),
        offered "types" (by decide), offered "left" (by decide), offered "right" (by decide),
        offered "schema" (by decide), offered "member" (by decide), offered "keys" (by decide)]
  simp only [load, loadAt, build, loadNotes, same "kind" (by decide), same "meta" (by decide), node]

end Node

namespace Command

open Disk

/-! ## Runs up to the writing -/

/-- Two disks that differ in one file only, a configuration, and there in whether texts are written
whole, if at all. -/
structure SwitchedAt (file : FilePath) (disk other : Disk) : Prop where
  config : ∃ config config', readFile disk file = .ok config ∧ readFile other file = .ok config' ∧
    Options.Switched config config'
  others : ∀ place, place ≠ file → other.find? place = disk.find? place

/-- Whether a command line names a file as its configuration. -/
def Configures (home : FilePath) (line : List String) (file : FilePath) : Prop :=
  ∃ arguments written, Arguments.read line = .ok arguments ∧ arguments.config? = some written ∧
    FilePath.resolve home written = file

theorem file_of_readFile {disk : Disk} {file : FilePath} {v : Value}
    (read : readFile disk file = .ok v) : ∃ text, disk.find? file = some (.file text) := by
  unfold readFile at read
  split at read
  · exact ⟨_, ‹_›⟩
  · cases read
  · cases read

/-- A run with a configuration reads it from the file that is named. -/
theorem config_of_places {home : FilePath} {disk : Disk} {arguments : Arguments} {found : Places}
    {written : String} (placed : places home disk arguments = .ok found)
    (named : arguments.config? = some written) :
    found.config? = some (FilePath.resolve home written) := by
  simp only [places, named] at placed
  obtain ⟨config?, config, placed⟩ := bind_eq_ok.mp placed
  have same : some (FilePath.resolve home written) = config? := by
    obtain ⟨path, there, done⟩ := map_eq_ok.mp config
    split at there
    · exact Except.ok.inj there ▸ done
    · cases there
  subst same
  split at placed
  · cases placed
  all_goals obtain ⟨there, -, placed⟩ := bind_eq_ok.mp placed
  · exact Except.ok.inj placed ▸ rfl
  · exact Except.ok.inj placed ▸ rfl
  · cases placed

namespace SwitchedAt

variable {file : FilePath} {disk other : Disk}

theorem files (switched : SwitchedAt file disk other) :
    (∃ text, disk.find? file = some (.file text)) ∧
      ∃ text, other.find? file = some (.file text) := by
  obtain ⟨config, config', read, read', -⟩ := switched.config
  exact ⟨file_of_readFile read, file_of_readFile read'⟩

theorem isFolder_iff (switched : SwitchedAt file disk other) (place : FilePath) :
    other.find? place = some .folder ↔ disk.find? place = some .folder := by
  by_cases same : place = file
  · obtain ⟨⟨text, own⟩, text', others⟩ := switched.files
    simp [same, own, others]
  · rw [switched.others place same]

theorem holds (switched : SwitchedAt file disk other) (place : FilePath) :
    other.holds place = disk.holds place := by
  by_cases same : place = file
  · obtain ⟨⟨text, own⟩, text', others⟩ := switched.files
    simp [Disk.holds, same, own, others]
  · simp only [Disk.holds, switched.others place same]

theorem exists? (switched : SwitchedAt file disk other) (place : FilePath) :
    other.exists? place = disk.exists? place := by
  have obstacles : other.obstacle? = disk.obstacle? := by
    funext place
    by_cases same : place = file
    · obtain ⟨⟨text, own⟩, text', others⟩ := switched.files
      simp [Disk.obstacle?, same, own, others]
    · simp only [Disk.obstacle?, switched.others place same]
  simp only [Disk.exists?, Disk.reach, obstacles, switched.holds]

theorem sound (switched : SwitchedAt file disk other) (sound : disk.Sound) : other.Sound := by
  intro place below entry there part differ
  rw [switched.isFolder_iff]
  have held : disk.holds below = true := by
    rw [← switched.holds]
    exact holds_iff.mpr ⟨entry, there⟩
  obtain ⟨entry', there'⟩ := holds_iff.mp held
  exact sound there' part differ

theorem places (switched : SwitchedAt file disk other) (home : FilePath) (arguments : Arguments) :
    Command.places home other arguments = Command.places home disk arguments := by
  simp only [Command.places, switched.holds]

theorem readFile (switched : SwitchedAt file disk other) {place : FilePath}
    (differ : place ≠ file) : Command.readFile other place = Command.readFile disk place := by
  simp only [Command.readFile, switched.others place differ]

end SwitchedAt

/-- Tasks with one description, and options that differ in whether texts are written whole, if at
all. -/
structure Task.Alike (task other : Task) : Prop where
  tree : other.tree = task.tree
  options : task.options.Alike other.options

variable {o o' : Options}

theorem settings_alike (alike : o.Alike o') :
    Agree OutputSettings.Alike (settings o) (settings o') :=
  alike.settings.mapError _

def turnedOn (arguments : Arguments) (o : Options) : Options :=
  { o with
    root := if arguments.root then .bool true else o.root
    loose := if arguments.loose then .bool true else o.loose }

def adjusted (asked : Bool) (change : OutputSettings → OutputSettings) (o : Options) :
    Except Stop Options :=
  if asked then settings o >>= fun s => .ok { o with output := .settings (change s) } else .ok o

theorem override_eq (arguments : Arguments) (o : Options) :
    override arguments o =
      adjusted arguments.force (fun s => { s with mode := .force }) (turnedOn arguments o) >>=
        adjusted arguments.check fun s => { s with checkSchema := .bool true } := by
  obtain ⟨config?, root, loose, force, check, verbose, help, operands⟩ := arguments
  obtain ⟨_, _, _, output, _⟩ := o
  cases output <;> cases root <;> cases loose <;> cases force <;> cases check <;> rfl

theorem adjusted_alike (asked : Bool) {change : OutputSettings → OutputSettings}
    (keeps : ∀ {s t}, s.Alike t → (change s).Alike (change t)) (alike : o.Alike o') :
    Agree Options.Alike (adjusted asked change o) (adjusted asked change o') := by
  cases asked with
  | false => exact .ok alike
  | true =>
      refine (settings_alike alike).bind fun same => .ok ?_
      exact ⟨alike.root, alike.loose, alike.maxDepth, .inr ⟨_, _, rfl, rfl, keeps same⟩⟩

theorem override_alike (alike : o.Alike o') (arguments : Arguments) :
    Agree Options.Alike (override arguments o) (override arguments o') := by
  have turned : (turnedOn arguments o).Alike (turnedOn arguments o') := by
    obtain ⟨root, loose, maxDepth, output⟩ := alike
    exact ⟨by simp only [turnedOn, root], by simp only [turnedOn, loose], maxDepth, output⟩
  rw [override_eq, override_eq]
  refine (adjusted_alike _ ?_ turned).bind fun forced => adjusted_alike _ ?_ forced
  · exact fun same => ⟨rfl, same.indent, same.checkSchema⟩
  · exact fun same => ⟨same.mode, same.indent, rfl⟩

section Runs

variable {home file : FilePath} {line : List String} {disk other : Disk}

/-- What is read as a description is the same, or loads as the same. -/
theorem readFile_alike (switched : SwitchedAt file disk other) (place : FilePath) :
    Agree (fun v w => Node.load w = Node.load v) (readFile disk place) (readFile other place) := by
  by_cases same : place = file
  · obtain ⟨config, config', read, read', differ⟩ := switched.config
    rw [same, read, read']
    cases differ with
    | output => exact .ok (Node.load_congr fun name differ => Options.Switched.get? differ)
  · rw [switched.readFile same]
    exact Agree.refl (show ∀ v, Node.load v = Node.load v from fun _ => rfl) _

theorem load_alike (switched : SwitchedAt file disk other) {arguments : Arguments} {found : Places}
    (named : found.config? = some file) :
    Agree Task.Alike (load disk arguments found) (load other arguments found) := by
  have configured : Agree Options.Alike (options disk arguments found.config?)
      (options other arguments found.config?) := by
    obtain ⟨config, config', read, read', differ⟩ := switched.config
    simp only [options, named, read, read']
    exact (differ.ofDict.mapError _).bind fun alike => override_alike alike arguments
  refine configured.bind fun alike => (readFile_alike switched _).bind fun {v w} same => ?_
  rw [same]
  exact Agree.bind (.same _) fun tree =>
    .ok ⟨tree, alike⟩

theorem compile_alike {task task' : Task} (alike : task.Alike task') :
    Agree (fun done done' => done.1.Alike done'.1 ∧ done'.2 = done.2) (compile task)
      (compile task') := by
  have drawn : task'.tree.compile task'.options = task.tree.compile task.options := by
    rw [alike.tree]
    exact Node.compile_congr alike.options.root ⟨alike.options.maxDepth, alike.options.loose⟩ _
  simp only [compile, drawn]
  refine Agree.bind (.same _)
    fun {document document'} same => (settings_alike alike.options).bind fun {s t} settings => ?_
  obtain rfl : document = document' := same.symm
  have rendered : render t document = render s document := by
    simp only [render, settings.indent]
  rw [settings.checkSchema, rendered]
  have finished : Agree (fun (done done' : OutputSettings × String) =>
      done.1.Alike done'.1 ∧ done'.2 = done.2) (render s document >>= fun text => pure (s, text))
        (render s document >>= fun text => pure (t, text)) :=
    Agree.bind (.same _) fun text =>
      .ok ⟨settings, text⟩
  split
  · exact Agree.bind (.same _) fun _ => finished
  · exact finished

/-- Two texts to write that are the same, from one description, with settings that differ in whether
it is written whole, if at all. -/
structure Order.Alike (order order' : Order) : Prop where
  task : order.task.Alike order'.task
  settings : order.settings.Alike order'.settings
  path : order'.path = order.path
  text : order'.text = order.text

theorem exit_printed (logged logged' text : String) :
    (printed logged text).exit = (printed logged' text).exit := by
  unfold printed
  cases Text.unencodable? text <;> rfl

/-- Runs with switched configurations come to write the same text, or end with the same exit
code. -/
theorem prepare_switched (switched : SwitchedAt file disk other)
    (configured : Configures home line file) :
    (∃ outcome outcome', prepare home line disk = .error outcome ∧
        prepare home line other = .error outcome' ∧ outcome'.exit = outcome.exit) ∨
      ∃ order order', prepare home line disk = .ok order ∧ prepare home line other = .ok order' ∧
        order.Alike order' := by
  obtain ⟨arguments, written, read, named, rfl⟩ := configured
  simp only [prepare, read, switched.places, Except.mapError, bind, Except.bind]
  split
  · exact .inl ⟨_, _, rfl, rfl, rfl⟩
  · cases placed : places home disk arguments with
    | error fault => exact .inl ⟨_, _, rfl, rfl, rfl⟩
    | ok found =>
        dsimp only
        have loaded := @load_alike _ _ _ switched arguments _ (config_of_places placed named)
        generalize load disk arguments found = first at loaded
        generalize load other arguments found = second at loaded
        cases loaded with
        | error stop => exact .inl ⟨_, _, rfl, rfl, rfl⟩
        | ok task =>
            rename_i own others
            dsimp only
            have compiled := compile_alike task
            generalize compile own = first at compiled
            generalize compile others = second at compiled
            cases compiled with
            | error stop =>
                refine .inl ⟨_, _, rfl, rfl, ?_⟩
                rw [(exit_cutShort _ _).1, (exit_cutShort _ _).1]
            | ok same =>
                dsimp only
                cases found.output? with
                | none => exact .inl ⟨_, _, rfl, rfl, same.2 ▸ exit_printed _ _ _⟩
                | some path => exact .inr ⟨_, _, rfl, rfl, task, same.1, rfl, same.2⟩

end Runs

/-! ## The writing -/

section Writing

variable {s : OutputSettings} {disk : Disk} {path : FilePath} {text : String}

/-- Whether a text passes the check that is made before it is written whole. -/
def Passes (s : OutputSettings) (text : String) : Prop :=
  s.checkSchema.truthy = true → ∃ v, Json.read text = .ok v ∧ Draft06.check v = .ok ()

/-- A text can be written either way: a folder is there for it and none is in its way, its name
leaves room for a file of its own, and it has bytes and passes the check. -/
structure Writable (s : OutputSettings) (disk : Disk) (path : FilePath) (text : String) : Prop where
  folder : disk.find? path.parent = some .folder
  target : disk.find? path ≠ some .folder
  room : (Writer.ownName path 0).Fits
  bytes : Text.unencodable? text = none
  passes : Passes s text

/-- A text that can be written is written, unless what stands in its place is in the way. -/
theorem deliver_isOk (sound : disk.Sound) (writable : Writable s disk path text) :
    (deliver s disk path text).result = .ok () ↔ ¬ Blocked s disk path := by
  obtain ⟨folder, target, room, bytes, passes⟩ := writable
  have below := below_of_not_folder target
  obtain ⟨hasRoom, fits, parentFits⟩ := Writer.fits_of_ownName below room
  cases whole : s.atomicWrite.truthy with
  | true =>
      rcases deliver_whole whole disk path text with ⟨blocked, stop, same⟩ | ⟨passed, -, result⟩
      · rw [same]
        exact ⟨nofun, fun passed => absurd blocked passed⟩
      · rw [result]
        refine ⟨fun _ => passed, fun _ => ?_⟩
        have ready : ∃ ready, disk.makeFolders path.parent = .ok ready :=
          makeFolders_isOk.mpr ⟨fun place part => .inr (sound.folder_above folder part), parentFits⟩
        obtain ⟨ready, made⟩ := ready
        have passed : Writer.verdict _ s.checkSchema.truthy text = .ok () :=
          Writer.verdict_isOk.mpr fun asked => by
            obtain ⟨v, read, fit⟩ := passes asked
            exact ⟨v, read, show (Draft06.check v).mapError Draft06.Fault.failure = .ok () from
              mapError_eq_ok.mpr fit⟩
        refine (Writer.write_ready _ _ text made).1.trans ?_
        simp only [Writer.later, hasRoom, bytes, passed, if_neg target]
        rfl
  | false =>
      rcases deliver_direct whole disk path text with
        ⟨blocked, stop, same⟩ | ⟨passed, ⟨fault, left, stop, -, failed⟩ | ⟨after, lines, same, -⟩⟩
      · rw [same]
        exact ⟨nofun, fun passed => absurd blocked passed⟩
      · obtain ⟨after, written⟩ := writeFile_isOk sound fits folder target bytes
        cases written.symm.trans failed
      · rw [same]
        exact ⟨fun _ => passed, fun _ => rfl⟩

/-- A text that can be written but is not leaves everything as it is. -/
theorem find?_deliver_failed (sound : disk.Sound) (writable : Writable s disk path text)
    (failed : (deliver s disk path text).result ≠ .ok ()) (place : FilePath) :
    (deliver s disk path text).disk.find? place = disk.find? place := by
  rcases deliver_left sound failed with kept | ⟨-, emptied, -⟩
  · cases held : disk.find? place with
    | some entry => exact kept.held place entry held
    | none =>
        rcases kept.new place held with free | ⟨onWay, -⟩
        · exact free
        · cases held.symm.trans (sound.folder_above writable.folder onWay)
  · have strange := emptied.strange
    rw [writable.bytes] at strange
    cases strange

/-- A text that is written changes its place only, if its folder is there. -/
theorem find?_deliver_done (sound : disk.Sound) (folder : disk.find? path.parent = some .folder)
    (done : (deliver s disk path text).result = .ok ()) (place : FilePath) :
    (deliver s disk path text).disk.find? place =
      if place = path then some (.file text) else disk.find? place := by
  obtain ⟨wrote, -⟩ := deliver_wrote sound done
  split
  · rename_i same
    exact same ▸ wrote.target
  · rename_i differ
    by_cases onWay : place <+: path.parent
    · rw [(wrote.folders place onWay).1, sound.folder_above folder onWay]
    · exact wrote.others place differ onWay

/-- Unless it is to be replaced, what is there stays there. -/
theorem find?_deliver_gentle (sound : disk.Sound) (gentle : s.mode.isForce = false)
    {place : FilePath} {entry : Entry} (held : disk.find? place = some entry) :
    (deliver s disk path text).disk.find? place = some entry := by
  by_cases done : (deliver s disk path text).result = .ok ()
  · obtain ⟨wrote, free⟩ := deliver_wrote sound done
    by_cases same : place = path
    · cases (same ▸ held).symm.trans (free gentle)
    · by_cases onWay : place <+: path.parent
      · obtain ⟨folder, none | before⟩ := wrote.folders place onWay
        · cases none.symm.trans held
        · rw [folder, ← held, before]
      · exact (wrote.others place same onWay).trans held
  · rcases deliver_left sound done with kept | ⟨-, emptied, free⟩
    · exact kept.held place entry held
    · -- only what was not there has been opened
      have differ : place ≠ path := by
        rintro rfl
        cases held.symm.trans (free gentle)
      exact (emptied.others place differ).trans held

end Writing

/-! ## Either way -/

/-- Whether reading undoes writing: the text is read as what its document settles to.  A layout that
is no blank space can keep it from being read at all. -/
def Order.ReadsBack (order : Order) : Prop :=
  ∀ document settled, order.task.tree.compile order.task.options = .ok document →
    Json.settle (.dict document) = .ok settled → Json.read order.text = .ok settled

/-- A document that has passed the check passes it again when it is read. -/
theorem passes_of_readsBack {order : Order}
    (compiled : compile order.task = .ok (order.settings, order.text)) (back : order.ReadsBack) :
    Passes order.settings order.text := by
  intro asked
  simp only [compile, bind_eq_ok, mapError_eq_ok] at compiled
  obtain ⟨document, drawn, s, settled, compiled⟩ := compiled
  have checked : Draft06.check (.dict document) = .ok () := by
    by_cases own : s.checkSchema.truthy = true
    · rw [if_pos own] at compiled
      obtain ⟨_, checked, -⟩ := bind_eq_ok.mp compiled
      exact mapError_eq_ok.mp checked
    · rw [if_neg own] at compiled
      obtain ⟨text, -, done⟩ := bind_eq_ok.mp compiled
      obtain ⟨rfl, -⟩ := Prod.mk.inj (Except.ok.inj done)
      exact absurd asked own
  unfold Draft06.check at checked
  split at checked
  · rename_i v settles
    refine ⟨v, back document v drawn settles, ?_⟩
    rw [Draft06.check, Json.settle_settled _ settles]
    exact checked
  · cases checked

/-- A text for a place with a folder around it and no folder in it, whose name leaves room for a file
of its own.  If it is indented by a text, that has bytes. -/
structure Order.Plain (order : Order) (disk : Disk) : Prop where
  folder : disk.find? order.path.parent = some .folder
  target : disk.find? order.path ≠ some .folder
  room : (Writer.ownName order.path 0).Fits
  indent : ∀ unit, order.settings.indent = .str unit → Text.Encodable unit

/-- What comes to be written has been rendered. -/
theorem render_of_compile {task : Task} {s : OutputSettings} {text : String}
    (compiled : compile task = .ok (s, text)) : ∃ document, render s document = .ok text := by
  simp only [compile, bind_eq_ok, mapError_eq_ok] at compiled
  obtain ⟨document, -, own, -, compiled⟩ := compiled
  have rendered : ∀ {found}, (render own document >>= fun text => pure (own, text)) = .ok found →
      render found.1 document = .ok found.2 := by
    intro found done
    obtain ⟨text, written, done⟩ := bind_eq_ok.mp done
    exact Except.ok.inj done ▸ written
  split at compiled
  · obtain ⟨_, -, done⟩ := bind_eq_ok.mp compiled
    exact ⟨document, rendered done⟩
  · exact ⟨document, rendered compiled⟩

/-- A plain text that reading undoes the writing of can be written. -/
theorem Order.Plain.writable {order : Order} {disk : Disk} (plain : order.Plain disk)
    (compiled : compile order.task = .ok (order.settings, order.text)) (back : order.ReadsBack) :
    Writable order.settings disk order.path order.text where
  folder := plain.folder
  target := plain.target
  room := plain.room
  bytes := by
    obtain ⟨document, rendered⟩ := render_of_compile compiled
    exact Text.unencodable?_eq_none.mpr (encodable_of_render plain.indent rendered)
  passes := passes_of_readsBack compiled back

namespace SwitchedAt

variable {file : FilePath} {disk other after after' : Disk}

/-- Where two runs have left a place as it was, they agree on it, unless it is the file in which
their configurations differ. -/
theorem elsewhere (switched : SwitchedAt file disk other) {place : FilePath}
    (kept : after.find? place = disk.find? place) (kept' : after'.find? place = other.find? place) :
    after'.find? place = after.find? place ∨ place = file ∧
      after.find? place = disk.find? place ∧ after'.find? place = other.find? place := by
  by_cases same : place = file
  · exact .inr ⟨same, kept, kept'⟩
  · exact .inl (by rw [kept, kept', switched.others place same])

/-- One text is written either way, or neither way. -/
theorem deliver (switched : SwitchedAt file disk other) (sound : disk.Sound) {order order' : Order}
    (alike : order.Alike order') (writable : Writable order.settings disk order.path order.text) :
    let own := Command.deliver order.settings disk order.path order.text
    let others := Command.deliver order'.settings other order'.path order'.text
    (others.result = .ok () ↔ own.result = .ok ()) ∧
      ∀ place, others.disk.find? place = own.disk.find? place ∨ place = file ∧
        own.disk.find? place = disk.find? place ∧ others.disk.find? place = other.find? place := by
  have sound' := switched.sound sound
  have writable' : Writable order'.settings other order'.path order'.text := by
    obtain ⟨folder, target, room, bytes, passes⟩ := writable
    rw [alike.path, alike.text]
    refine ⟨(switched.isFolder_iff _).mpr folder, (switched.isFolder_iff _).not.mpr target, room,
      bytes, ?_⟩
    rwa [Passes, alike.settings.checkSchema]
  have blocked : Blocked order'.settings other order'.path ↔
      Blocked order.settings disk order.path := by
    rw [Blocked, Blocked, alike.settings.mode, alike.path, switched.exists?]
  have agree := (deliver_isOk sound' writable').trans
    ((not_congr blocked).trans (deliver_isOk sound writable).symm)
  refine ⟨agree, fun place => ?_⟩
  by_cases done : (Command.deliver order.settings disk order.path order.text).result = .ok ()
  · have there := find?_deliver_done sound writable.folder done place
    have there' := find?_deliver_done sound' writable'.folder (agree.mpr done) place
    by_cases same : place = order.path
    · rw [if_pos same] at there
      rw [if_pos (same.trans alike.path.symm)] at there'
      exact .inl (there'.trans (by rw [there, alike.text]))
    · rw [if_neg same] at there
      rw [if_neg (alike.path ▸ same)] at there'
      exact switched.elsewhere there there'
  · exact switched.elsewhere (find?_deliver_failed sound writable done place)
      (find?_deliver_failed sound' writable' (mt agree.mp done) place)

end SwitchedAt

/-- Unless a run is to replace files, all that is on the disk stays as it is, whichever way texts
are written.  And if reading undoes writing its text, and its place has a folder around it, none in
it, and room for the name of a file beside it, both ways give the same exit code, and the same files
but for the configuration that says which way to go. -/
theorem run_either_way {home : FilePath} {line : List String} {disk : Disk} (sound : disk.Sound) :
    ((∀ order, prepare home line disk = .ok order → order.settings.mode.isForce = false) →
      ∀ place entry, disk.find? place = some entry →
        (run home line disk).2.find? place = some entry) ∧
      ∀ file other, Configures home line file → SwitchedAt file disk other →
        (∀ order, prepare home line disk = .ok order → order.Plain disk) →
        (∀ order, prepare home line disk = .ok order → order.ReadsBack) →
          (run home line other).1.exit = (run home line disk).1.exit ∧
            ∀ place, (run home line other).2.find? place = (run home line disk).2.find? place ∨
              place = file ∧ (run home line disk).2.find? place = disk.find? place ∧
                (run home line other).2.find? place = other.find? place := by
  constructor
  · intro gentle place entry held
    cases prepared : prepare home line disk with
    | error outcome =>
        rw [(run_of_ended prepared).1]
        exact held
    | ok order =>
        rw [(run_of_ordered prepared).1]
        exact find?_deliver_gentle sound (gentle order prepared) held
  · intro file other configured switched plain inverts
    rcases prepare_switched switched configured with
      ⟨outcome, outcome', ended, ended', exit⟩ | ⟨order, order', ordered, ordered', alike⟩
    · rw [(run_of_ended ended).1, (run_of_ended ended').1]
      exact ⟨exit, fun place => switched.elsewhere rfl rfl⟩
    · obtain ⟨arguments, places, -, -, -, -, compiled, -⟩ := prepare_eq_ok ordered
      have writable := (plain order ordered).writable compiled (inverts order ordered)
      obtain ⟨agree, files⟩ := switched.deliver sound alike writable
      obtain ⟨after, -, exit⟩ := run_of_ordered ordered
      obtain ⟨after', -, exit'⟩ := run_of_ordered ordered'
      rw [after, after', exit, exit', if_congr agree rfl rfl]
      exact ⟨rfl, files⟩

/-- A description and a configuration that asks for a check, and says whether texts are written
whole. -/
def benchDisk (whole : Bool) : Disk :=
  ⟨[(["tree"], .file "\x7b\"kind\": \"nominal\", \"primitive\": \"string\"\x7d"),
    (["setup"], .file ("\x7b\"output\": \x7b\"check_schema\": true, \"atomic_write\": " ++
      (if whole then "true" else "false") ++ "\x7d\x7d"))]⟩

def benchLine (name : String) : List String := ["-c", "setup", "tree", name]

def benchConfig (whole : Bool) : Value :=
  .dict ([] ++ (.str "output", .dict (Members.named [("check_schema", .bool true),
    ("atomic_write", .bool whole)])) :: [])

def benchOrder (whole : Bool) (name : String) : Order :=
  let s : OutputSettings := { checkSchema := .bool true, atomicWrite := .bool whole }
  ⟨⟨{ output := .settings s }, .nominal (.primitive .string) (.dict [])⟩, s, [name],
    "\x7b\n  \"type\": \"string\"\n\x7d\n"⟩

theorem readFile_bench (whole : Bool) :
    readFile (benchDisk whole) ["setup"] = .ok (benchConfig whole) := by
  cases whole with
  | false => cbv
  | true => cbv

theorem prepare_bench (whole : Bool) {name : String}
    (read : Arguments.read (benchLine name) =
      .ok { config? := some "setup", operands := ["tree", name] })
    (there : FilePath.resolve [] name = [name]) :
    prepare [] (benchLine name) (benchDisk whole) = .ok (benchOrder whole name) := by
  have tagged : readFile (benchDisk whole) ["tree"] = .ok (.dict (Members.named
      [("kind", .str "nominal"), ("primitive", .str "string")])) := by
    cases whole with
    | false => cbv
    | true => cbv
  have loaded : load (benchDisk whole) { config? := some "setup", operands := ["tree", name] }
      ⟨some ["setup"], ["tree"], some [name]⟩ = .ok (benchOrder whole name).task := by
    simp only [load, options, readFile_bench, tagged]
    rfl
  have found : places [] (benchDisk whole)
      { config? := some "setup", operands := ["tree", name] } =
        .ok ⟨some ["setup"], ["tree"], some (FilePath.resolve [] name)⟩ := rfl
  have compiled : compile (benchOrder whole name).task =
      .ok ((benchOrder whole name).settings, (benchOrder whole name).text) := rfl
  simp only [prepare, read, found, there, loaded, compiled, Except.mapError, bind, Except.bind,
    Bool.false_eq_true, if_false]
  rfl

theorem run_either_way_bench :
    (benchDisk true).Sound ∧
      (run [] (benchLine "list") (benchDisk true)).2.find? ["setup"] =
        (benchDisk true).find? ["setup"] ∧
      (run [] (benchLine "list") (benchDisk false)).1.exit =
        (run [] (benchLine "list") (benchDisk true)).1.exit ∧
      (run [] (benchLine "list") (benchDisk false)).2.find? ["list"] =
        (run [] (benchLine "list") (benchDisk true)).2.find? ["list"] := by
  have sound : (benchDisk true).Sound := sound_of_entries (by decide)
  have only : ∀ order, prepare [] (benchLine "list") (benchDisk true) = .ok order →
      order = benchOrder true "list" := fun order ordered =>
    (Except.ok.inj ((@prepare_bench true "list" rfl rfl).symm.trans ordered)).symm
  obtain ⟨gentle, either⟩ := @run_either_way [] (benchLine "list") _ sound
  have switched : SwitchedAt ["setup"] (benchDisk true) (benchDisk false) := by
    refine ⟨⟨_, _, readFile_bench true, readFile_bench false, .output fun name differ => ?_⟩,
      fun place differ => ?_⟩
    · simp [Members.get?_named, List.lookup_cons, beq_false_of_ne differ]
    · simp [benchDisk, Disk.find?, List.lookup_cons, beq_false_of_ne differ]
  have plain : ∀ order, prepare [] (benchLine "list") (benchDisk true) = .ok order →
      order.Plain (benchDisk true) := by
    intro order ordered
    rw [only order ordered]
    have top : ∀ place : FilePath, place <+: [] → place.nameFits = true := by
      intro place part
      rw [List.prefix_nil.mp part]
      decide
    refine ⟨rfl, by decide, ⟨by decide, FilePath.forall_prefix_iff.mpr ⟨by decide, top⟩⟩, ?_⟩
    intro unit text
    cases text
  have back : ∀ order, prepare [] (benchLine "list") (benchDisk true) = .ok order →
      order.ReadsBack := by
    intro order ordered document settled drawn settles
    rw [only order ordered] at drawn ⊢
    obtain rfl := Except.ok.inj drawn
    obtain rfl := Except.ok.inj settles
    have read : Json.read "\x7b\n  \"type\": \"string\"\n\x7d\n" =
        .ok (.dict [(.str "type", .str "string")]) := by cbv
    exact read
  obtain ⟨exit, files⟩ := either ["setup"] (benchDisk false)
    ⟨_, "setup", rfl, rfl, rfl⟩ switched plain back
  refine ⟨sound, ?_, exit, ?_⟩
  · exact gentle (fun order ordered => only order ordered ▸ rfl) ["setup"] _ rfl
  · exact (files ["list"]).resolve_right fun other => absurd other.1 (by decide)

/-- A name of 246 bytes: a disk takes it, but it leaves no room for a file of its own. -/
def longName : String := String.ofList (List.replicate 82 '\u9577')

theorem prepare_long (whole : Bool) :
    prepare [] (benchLine longName) (benchDisk whole) = .ok (benchOrder whole longName) := by
  have letters : longName.toList = List.replicate 82 '\u9577' := String.toList_ofList
  have operand : longName ≠ "--" := fun same => by
    have short := congrArg String.toList same
    rw [letters] at short
    revert short
    decide
  have flag : Arguments.readOne {} "-c" = .ok ({}, some "-c") := rfl
  have first (found : Arguments) : Arguments.readOne found "tree" =
      .ok ({ found with operands := found.operands ++ ["tree"] }, none) := rfl
  have second (found : Arguments) : Arguments.readOne found longName =
      .ok ({ found with operands := found.operands ++ [longName] }, none) := by
    simp only [Arguments.readOne, letters]
    rfl
  refine prepare_bench whole ?_ ?_
  · simp [Arguments.read, benchLine, Arguments.readFrom, flag, first, second, operand]
  · simp only [FilePath.resolve, letters]
    decide +kernel

/-- A run to a long name fails if texts are written whole, and succeeds if they are not. -/
theorem run_either_way_long :
    (benchDisk true).Sound ∧ FilePath.nameFits [longName] = true ∧
      (run [] (benchLine longName) (benchDisk true)).1.exit = 1 ∧
      (run [] (benchLine longName) (benchDisk true)).2.find? [longName] = none ∧
      (run [] (benchLine longName) (benchDisk false)).1.exit = 0 ∧
      (run [] (benchLine longName) (benchDisk false)).2.find? [longName] =
        some (.file (benchOrder false longName).text) := by
  obtain ⟨after, -, exit⟩ := run_of_ordered (prepare_long true)
  obtain ⟨after', -, exit'⟩ := run_of_ordered (prepare_long false)
  rw [after, after', exit, exit']
  refine ⟨sound_of_entries (by decide), ?_⟩
  decide +kernel

end Command

end Draftsman
