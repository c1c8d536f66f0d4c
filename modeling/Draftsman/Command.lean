/-
# Draftsman.Command -- the command line tool

The command reads a description from a file, compiles it, and prints the document or
writes it to another file.  What it does depends on its arguments and on the disk
alone, so a run is a function from these to what is printed, the exit code and the
disk afterwards.

* `Command.run` is a whole run;
* `Command.compile` is the part up to the text of the document, and `Command.deliver`
  the part that writes it;
* a failure is either told to the user (`Stop.told`) or left to the host
  (`Stop.escaped`);
* what is reported can hold texts that have no bytes, and is escaped for that; what is
  written cannot.
-/
import Draftsman.Command.Arguments
import Draftsman.Compile.Remarks
import Draftsman.Disk.Writer
import Draftsman.Node.Loader

namespace Draftsman.Command

set_option autoImplicit false

/-- What a run shows: the exit code, what is printed to either side, and the failure
that is left to the host. -/
structure Outcome where
  exit : Nat
  out : String
  err : String
  escaped? : Option Failure
  deriving DecidableEq, Repr

inductive Stop where
  /-- The user is told. -/
  | told (message : String)
  /-- The failure is left to the host. -/
  | escaped (failure : Failure)
  deriving DecidableEq, Repr

namespace Stop

/-- Diagnoses are told; all other failures escape. -/
def ofFailure (failure : Failure) : Stop :=
  if failure.kind.isDiagnosis then told failure.message else escaped failure

/-- While a file is written, a file in the way is told as well. -/
def ofWriting (failure : Failure) : Stop :=
  if failure.kind = .fileExists then told failure.message else ofFailure failure

end Stop

/-! ## Usage -/

def usageLine : String := "Usage: types-json-schema [OPTIONS] PATH [OUTPUT]\n"

def helpText : String :=
  usageLine ++ "\n" ++
  "Options:\n" ++
  "  -c, --config PATH\n" ++
  "  --root             Add the \"$schema\" marker to the document\n" ++
  "  --loose            Drop unknown predicates instead of failing\n" ++
  "  -f, --force        Overwrite an existing output file\n" ++
  "  --check            Check the document against the draft-06 meta-schema\n" ++
  "  -v, --verbose\n" ++
  "  --help             Show this message and exit.\n"

def usageOutcome (fault : UsageFault) : Outcome :=
  let reminder :=
    if fault.showsUsage then
      usageLine ++ "Try 'types-json-schema --help' for help.\n\n"
    else ""
  ⟨2, "", reminder ++ "Error: " ++ fault.text ++ "\n", none⟩

structure Places where
  config? : Option FilePath
  input : FilePath
  output? : Option FilePath
  deriving DecidableEq, Repr

/-- Whether the help is asked for, or else the places of a command line.  The
configuration is looked for before the description, and both before surplus operands
are refused. -/
def places (home : FilePath) (disk : Disk) (arguments : Arguments) : Except UsageFault Places := do
  let find (parameter written : String) : Except UsageFault FilePath :=
    let path := FilePath.resolve home written
    if disk.holds path then .ok path else .error (.noSuchFile parameter written)
  let config? ← match arguments.config? with
    | some written => (find "'--config' / '-c'" written).map some
    | none => .ok none
  match arguments.operands with
  | [] => .error .missingOperand
  | [input] => do
      let input ← find "'PATH'" input
      pure ⟨config?, input, none⟩
  | [input, output] => do
      let input ← find "'PATH'" input
      pure ⟨config?, input, some (FilePath.resolve home output)⟩
  | input :: _ :: extra => do
      let _ ← find "'PATH'" input
      .error (.extraOperands extra)

/-! ## Reading -/

/-- Line ends of other kinds become plain ones as a file is read. -/
def plainLines : List Char → List Char
  | [] => []
  | '\r' :: '\n' :: rest => '\n' :: plainLines rest
  | '\r' :: rest => '\n' :: plainLines rest
  | c :: rest => c :: plainLines rest

def malformedText (fault : Json.Fault) : Failure :=
  match fault with
  | .malformed _ _ _ _ => ⟨.malformedText, fault.message⟩
  | .tooLong _ => ⟨.badValue, fault.message⟩

def readFile (disk : Disk) (path : FilePath) : Except Stop Value :=
  match disk.find? path with
  | some (.file text) =>
      (Json.read (String.ofList (plainLines text.toList))).mapError fun fault =>
        .escaped (malformedText fault)
  | some .folder => .error (.escaped ⟨.isDirectory, ""⟩)
  | none => .error (.escaped ⟨.fileMissing, ""⟩)

def settings (options : Options) : Except Stop OutputSettings :=
  options.settings.mapError fun fault => .escaped fault.failure

/-- Turns on what the arguments ask for. -/
def override (arguments : Arguments) (options : Options) : Except Stop Options := do
  let marked := if arguments.root then { options with root := .bool true } else options
  let relaxed := if arguments.loose then { marked with loose := .bool true } else marked
  let forced ←
    if arguments.force then do
      let s ← settings relaxed
      pure { relaxed with output := .settings { s with mode := .force } }
    else pure relaxed
  if arguments.check then do
    let s ← settings forced
    pure { forced with output := .settings { s with checkSchema := .bool true } }
  else pure forced

def options (disk : Disk) (arguments : Arguments) (config? : Option FilePath) :
    Except Stop Options := do
  let configured ← match config? with
    | none => pure {}
    | some path => do
        let config ← readFile disk path
        (Options.ofDict config).mapError fun fault => .escaped fault.failure
  override arguments configured

/-! ## The document -/

def indentLimit : Nat := twoTo 63

/-- The layout of an indentation: none, a number of spaces, or a text. -/
def layout (indent : Value) : Except Failure Json.Layout :=
  let spaces (n : Int) : Except Failure Json.Layout :=
    if indentLimit ≤ n ∨ n < -indentLimit then
      .error ⟨.outOfRange, "cannot fit 'int' into an index-sized integer"⟩
    else .ok (.lines (String.ofList (List.replicate n.toNat ' ')))
  match indent with
  | .null => .ok .oneLine
  | .bool b => spaces (if b then 1 else 0)
  | .int n => spaces n
  | .str unit => .ok (.lines unit)
  | .primitive p => .ok (.lines p.name)
  | _ => .error ⟨.wrongType, ""⟩

def unwritable (reason : Json.Unwritable) : Failure :=
  match reason with
  | .tooLong => ⟨.badValue, reason.message⟩
  | _ => ⟨.wrongType, ""⟩

/-- The text of a document, with a line end. -/
def render (s : OutputSettings) (document : Members) : Except Stop String := do
  let layout ← (layout s.indent).mapError .escaped
  let text ← (Json.write layout (.dict document)).mapError fun reason =>
    .escaped (unwritable reason)
  pure (text ++ "\n")

/-- A description that has been loaded under some options. -/
structure Task where
  options : Options
  tree : Node

/-- The description and the options of a run. -/
def load (disk : Disk) (arguments : Arguments) (places : Places) : Except Stop Task := do
  let options ← options disk arguments places.config?
  let tagged ← readFile disk places.input
  let tree ← (Node.load tagged).mapError fun fault => .ofFailure fault.failure
  pure ⟨options, tree⟩

def compile (task : Task) : Except Stop (OutputSettings × String) := do
  let document ← (task.tree.compile task.options).mapError fun fault => .ofFailure fault.failure
  let s ← settings task.options
  if s.checkSchema.truthy then
    (Draft06.check (.dict document)).mapError fun fault => .ofFailure fault.failure
  let text ← render s document
  pure (s, text)

/-! ## Writing -/

/-- Writes a text straight to its place.  A failure comes with the disk that is left. -/
def writeDirectly (overwrite : Bool) (disk : Disk) (path : FilePath) (text : String) :
    Except (Failure × Disk) Disk :=
  match if overwrite then .ok false else disk.exists? path with
  | .error fault => .error (fault.failure, disk)
  | .ok true =>
      .error (⟨.fileExists, "Output file already exists: " ++ path.text ++
        ". Use --force to overwrite."⟩, disk)
  | .ok false => (disk.writeFile path text).mapError fun (fault, left) => (fault.failure, left)

/-- What a run leaves behind once the document is compiled: the disk, the lines that
report the writing, and the failure if there is one. -/
structure Delivery where
  disk : Disk
  lines : List String
  result : Except Stop Unit

/-- Writes a text to its place in the way that the settings ask for. -/
def deliver (s : OutputSettings) (disk : Disk) (path : FilePath) (text : String) : Delivery :=
  let overwrite := s.mode.isForce
  let written := "INFO: Schema written to " ++ path.text
  if s.atomicWrite.truthy then
    let write := if overwrite then Writer.write else Writer.create
    let attempt := write Validator.draft06 s.checkSchema.truthy disk path text
    match attempt.result with
    | .ok () => ⟨attempt.disk, ["DEBUG: Wrote " ++ path.text, written], .ok ()⟩
    | .error fault => ⟨attempt.disk, [], .error (.ofWriting fault.failure)⟩
  else
    match writeDirectly overwrite disk path text with
    | .ok after => ⟨after, [written], .ok ()⟩
    | .error (failure, left) => ⟨left, [], .error (.ofWriting failure)⟩

/-! ## A run -/

def log (arguments : Arguments) (lines : List String) : String :=
  if arguments.verbose then Text.withEscapes (String.join (lines.map fun line => line ++ "\n"))
  else ""

def remarks (arguments : Arguments) (task : Task) : List String :=
  if arguments.verbose then
    (task.tree.remarks task.options).map fun remark => "DEBUG: " ++ remark.text
  else []

def cutShort (logged : String) : Stop → Outcome
  | .told message => ⟨1, "", logged ++ "Error: " ++ Text.withEscapes message ++ "\n", none⟩
  | .escaped failure => ⟨1, "", logged, some failure⟩

def printed (logged text : String) : Outcome :=
  match Text.unencodable? text with
  | some found => cutShort logged (.escaped (DiskFault.unencodable found).failure)
  | none => ⟨0, text, logged, none⟩

def work (arguments : Arguments) (disk : Disk) (places : Places) : Outcome × Disk :=
  match load disk arguments places with
  | .error stop => (cutShort "" stop, disk)
  | .ok task =>
      let remarked := log arguments (remarks arguments task)
      match compile task with
      | .error stop => (cutShort remarked stop, disk)
      | .ok (s, text) =>
          match places.output? with
          | none => (printed remarked text, disk)
          | some path =>
              let delivery := deliver s disk path text
              let logged := remarked ++ log arguments delivery.lines
              match delivery.result with
              | .ok () => (⟨0, "", logged, none⟩, delivery.disk)
              | .error stop => (cutShort logged stop, delivery.disk)

/-- A run: the arguments are followed as far as they go. -/
def run (home : FilePath) (line : List String) (disk : Disk) : Outcome × Disk :=
  match Arguments.read line with
  | .error fault => (usageOutcome fault, disk)
  | .ok arguments =>
      if arguments.help then (⟨0, helpText, "", none⟩, disk)
      else match places home disk arguments with
        | .error fault => (usageOutcome fault, disk)
        | .ok places => work arguments disk places

end Draftsman.Command
