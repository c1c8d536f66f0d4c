/-
# Draftsman.Options -- how a description is compiled and its document written

Options come from a configuration file or from a host, and their values are not
checked when they are set: one that is not what it should be fails where it is
used.  A file's `output` member makes new settings; anything else that is put in
their place stays as it is.

Options are an object of the host.  A few names are attributes that every such
object has, and a file may name them too (`Attribute.ofName?`): some refuse to be
set, one replaces all that was set before, and one takes the place of the report.

* `Options.ofDict` reads a configuration;
* `Options.assign` sets one attribute;
* `Options.report` shows options as a dictionary, or what has taken its place.
-/
import Draftsman.Value.Written
import Draftsman.Members
import Draftsman.Failure

namespace Draftsman

set_option autoImplicit false

/-- What happens to a file that is already there.  A mode that is no text is kept
until it is used. -/
inductive OutputMode where
  | errorIfExists
  | force
  | unknown (v : Value)
  deriving Repr

namespace OutputMode

def ofName? (name : String) : Option OutputMode :=
  if name = "error" then some .errorIfExists
  else if name = "force" then some .force
  else none

def name? : OutputMode → Option String
  | errorIfExists => some "error"
  | force => some "force"
  | unknown _ => none

def isForce : OutputMode → Bool
  | force => true
  | _ => false

end OutputMode

structure OutputSettings where
  mode : OutputMode := .errorIfExists
  indent : Value := .int 2
  atomicWrite : Value := .bool true
  checkSchema : Value := .bool false
  deriving Repr, Inhabited

/-- What stands in the place of the settings. -/
inductive Output where
  | settings (s : OutputSettings)
  | other (v : Value)
  | absent
  deriving Repr

structure Options where
  /-- Whether the document is marked with its dialect. -/
  root : Value := .bool false
  /-- Whether unknown predicates are dropped. -/
  loose : Value := .bool false
  /-- The deepest nesting that is accepted. -/
  maxDepth : Value := .int 100
  /-- How the document is written. -/
  output : Output := .settings {}
  /-- What has taken the place of the report. -/
  reporter? : Option Value := none
  deriving Repr

instance : Inhabited Options := ⟨{}⟩

inductive OptionsFault where
  /-- A configuration that is no dictionary has no members. -/
  | notDict
  /-- A name that is no text. -/
  | badName
  /-- A mode that does not exist. -/
  | badMode (mode : Value)
  /-- An attribute of a host object that takes no such value. -/
  | refused
  /-- An attribute of a host object that cannot be set. -/
  | fixed
  /-- What stands in the place of the settings is none. -/
  | noSettings
  /-- What has taken the place of the report makes none. -/
  | noReport
  deriving Repr

def OptionsFault.failure : OptionsFault → Failure
  | notDict | fixed | noSettings => ⟨.missingMember, ""⟩
  | badName | refused | noReport => ⟨.wrongType, ""⟩
  | badMode mode => .showing mode ⟨.badValue, mode.written ++ " is not a valid OutputMode"⟩

/-- The attributes of an options object that show. -/
inductive Attribute where
  | root
  | loose
  | maxDepth
  | output
  /-- The report itself. -/
  | report
  /-- The class of the object. -/
  | objectClass
  /-- The weak references to the object. -/
  | references
  /-- All attributes of the object. -/
  | all
  deriving DecidableEq, Repr

/-- The attribute of a name.  Other names either do not exist or do not show. -/
def Attribute.ofName? (name : String) : Option Attribute :=
  if name = "root" then some .root
  else if name = "loose" then some .loose
  else if name = "max_depth" then some .maxDepth
  else if name = "output" then some .output
  else if name = "to_dict" then some .report
  else if name = "__class__" then some .objectClass
  else if name = "__weakref__" then some .references
  else if name = "__dict__" then some .all
  else none

namespace OutputSettings

def modeOf (v : Value) : Except OptionsFault OutputMode :=
  match v.text? with
  | none => .ok (.unknown v)
  | some name =>
      match OutputMode.ofName? name with
      | some mode => .ok mode
      | none => .error (.badMode v)

def ofDict (members : Members) : Except OptionsFault OutputSettings := do
  let mode ← match Members.get? "mode" members with
    | some v => modeOf v
    | none => .ok .errorIfExists
  pure {
    mode
    indent := (Members.get? "indent" members).getD (.int 2)
    atomicWrite := (Members.get? "atomic_write" members).getD (.bool true)
    checkSchema := (Members.get? "check_schema" members).getD (.bool false) }

end OutputSettings

namespace Options

def settings (o : Options) : Except OptionsFault OutputSettings :=
  match o.output with
  | .settings s => .ok s
  | _ => .error .noSettings

/-- The object whose attributes are all those of a dictionary. -/
def ofAttributes (members : Members) : Options where
  root := (Members.get? "root" members).getD (.bool false)
  loose := (Members.get? "loose" members).getD (.bool false)
  maxDepth := (Members.get? "max_depth" members).getD (.int 100)
  output := ((Members.get? "output" members).map Output.other).getD .absent
  reporter? := Members.get? "to_dict" members

def assign (o : Options) (name : String) (v : Value) : Except OptionsFault Options :=
  match Attribute.ofName? name with
  | some .root => .ok { o with root := v }
  | some .loose => .ok { o with loose := v }
  | some .maxDepth => .ok { o with maxDepth := v }
  | some .output => .ok { o with output := .other v }
  | some .report => .ok { o with reporter? := some v }
  | some .objectClass => .error .refused
  | some .references => .error .fixed
  | some .all =>
      match v with
      | .dict members => .ok (ofAttributes members)
      | _ => .error .refused
  | none => .ok o

/-- Whether the object has settings or something in their place. -/
def hasOutput (o : Options) : Bool :=
  match o.output with
  | .absent => false
  | _ => true

def configure (o : Options) (key v : Value) : Except OptionsFault Options :=
  match key.text? with
  | none => .error .badName
  | some name =>
      if name = "output" then
        match v with
        | .dict members => do
            let s ← OutputSettings.ofDict members
            pure { o with output := .settings s }
        | _ => if o.hasOutput then o.assign name v else .ok o
      else o.assign name v

def configureAll (o : Options) : Members → Except OptionsFault Options
  | [] => .ok o
  | (k, v) :: rest => (o.configure k v).bind fun next => configureAll next rest

def ofDict (config : Value) : Except OptionsFault Options :=
  match config with
  | .dict members => configureAll {} members
  | _ => .error .notDict

def members (o : Options) : Except OptionsFault Members := do
  let s ← o.settings
  match s.mode.name? with
  | none => .error .noSettings
  | some mode =>
      pure (Members.named [("root", o.root), ("loose", o.loose), ("max_depth", o.maxDepth),
        ("output", .dict (Members.named [("mode", .str mode), ("indent", s.indent),
          ("atomic_write", s.atomicWrite), ("check_schema", s.checkSchema)]))])

/-- What a class makes of nothing, where that is a value. -/
def blank? : HostClass → Option Value
  | .text => some (.str "")
  | .integer => some (.int 0)
  | .null => some .null
  | .decimal => some (.decimal (.finite false 0 0))
  | .float => some (.float (Binary64.zero false))
  | .dict => some (.dict [])
  | .list => some (.list [])
  | .boolean => some (.bool false)
  | .tuple => some (.tuple [])
  | .date | .datetime | .time | .object | .bytes => none

/-- What options say of themselves: the dictionary, or what a class in its place makes
of nothing.  No other value in its place says anything. -/
def report (o : Options) : Except OptionsFault Value :=
  match o.reporter? with
  | none => o.members.map Value.dict
  | some (.host c) =>
      match blank? c with
      | some v => .ok v
      | none => .error .noReport
  | some _ => .error .noReport

end Options

end Draftsman
