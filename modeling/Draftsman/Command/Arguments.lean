/-
# Draftsman.Command.Arguments -- what a command line asks for

A command line holds options and operands in any order.  An option is a long name
after two dashes, or a run of letters after one; only the configuration takes a
value, behind an equals sign or the letter, or as the next argument.  Two dashes
alone end the options, and one dash alone is an operand.

* `Arguments.read` takes a command line apart, or stops at the first argument that
  it does not know;
* `UsageFault.text` is what the user is told.
-/
import Draftsman.Text.Likeness
import Draftsman.Text.Quoted

namespace Draftsman

set_option autoImplicit false

/-- What a command line asks for. -/
structure Arguments where
  /-- The configuration file. -/
  config? : Option String := none
  root : Bool := false
  loose : Bool := false
  force : Bool := false
  check : Bool := false
  verbose : Bool := false
  help : Bool := false
  /-- What is no option, in order. -/
  operands : List String := []
  deriving DecidableEq, Repr

namespace Arguments

/-- An option without a value. -/
inductive Switch where
  | root
  | loose
  | force
  | check
  | verbose
  | help
  deriving DecidableEq, Repr

def turnOn (found : Arguments) : Switch → Arguments
  | .root => { found with root := true }
  | .loose => { found with loose := true }
  | .force => { found with force := true }
  | .check => { found with check := true }
  | .verbose => { found with verbose := true }
  | .help => { found with help := true }

def longNames : List (String × Switch) :=
  [("--root", .root), ("--loose", .loose), ("--force", .force), ("--check", .check),
    ("--verbose", .verbose), ("--help", .help)]

def letters : List (Char × Switch) := [('f', .force), ('v', .verbose)]

def configName : String := "--config"

def configLetter : Char := 'c'

/-- The long names of all options. -/
def allLongNames : List String := configName :: longNames.map Prod.fst

end Arguments

inductive UsageFault where
  | unknownOption (name : String)
  | needlessValue (name : String)
  | missingValue (name : String)
  /-- The operand for the description is missing. -/
  | missingOperand
  /-- A file that has to be there is not. -/
  | noSuchFile (parameter path : String)
  /-- There are more operands than are asked for. -/
  | extraOperands (operands : List String)
  deriving DecidableEq, Repr

namespace UsageFault

/-- What an unknown option may have been meant for, behind a blank. -/
def suggestion (name : String) : String :=
  match (Text.closest 3 name Arguments.allLongNames).mergeSort with
  | [] => ""
  | [only] => " Did you mean " ++ Text.quoted only ++ "?"
  | several => " (Did you mean one of: " ++ ", ".intercalate (several.map Text.quoted) ++ "?)"

def text : UsageFault → String
  | unknownOption name => "No such option " ++ Text.quoted name ++ "." ++ suggestion name
  | needlessValue name => "Option " ++ Text.quoted name ++ " does not take a value."
  | missingValue name => "Option " ++ Text.quoted name ++ " requires an argument."
  | missingOperand => "Missing argument 'PATH'."
  | noSuchFile parameter path =>
      "Invalid value for " ++ parameter ++ ": Path " ++ Text.quoted path ++ " does not exist."
  | extraOperands operands =>
      "Got unexpected extra argument" ++ (if operands.length = 1 then " (" else "s (") ++
        " ".intercalate operands ++ ")"

/-- Whether the user is reminded of the usage as well. -/
def showsUsage : UsageFault → Bool
  | needlessValue _ | missingValue _ => false
  | _ => true

end UsageFault

namespace Arguments

/-- What reading one argument gives: the arguments so far, and the name of an option
that takes the next argument as its value. -/
abbrev Progress := Except UsageFault (Arguments × Option String)

def readLetters (found : Arguments) : List Char → Progress
  | [] => .ok (found, none)
  | c :: rest =>
      if c = configLetter then
        if rest.isEmpty then .ok (found, some (String.ofList ['-', c]))
        else .ok ({ found with config? := some (String.ofList rest) }, none)
      else match letters.lookup c with
        | some switch => readLetters (found.turnOn switch) rest
        | none => .error (.unknownOption (String.ofList ['-', c]))

def valueOf? (argument : List Char) : Option String :=
  match argument.dropWhile (· != '=') with
  | [] => none
  | _ :: value => some (String.ofList value)

def readOption (found : Arguments) (argument : List Char) : Progress :=
  let name := String.ofList (argument.takeWhile (· != '='))
  let value? := valueOf? argument
  if name = configName then
    match value? with
    | some value => .ok ({ found with config? := some value }, none)
    | none => .ok (found, some name)
  else match longNames.lookup name with
    | some switch =>
        if value?.isSome then .error (.needlessValue name) else .ok (found.turnOn switch, none)
    | none =>
        match argument with
        | '-' :: '-' :: _ => .error (.unknownOption name)
        | _ => readLetters found (argument.drop 1)

def readOne (found : Arguments) (argument : String) : Progress :=
  match argument.toList with
  | '-' :: c :: rest => readOption found ('-' :: c :: rest)
  | _ => .ok ({ found with operands := found.operands ++ [argument] }, none)

def readFrom (found : Arguments) : List String → Except UsageFault Arguments
  | [] => .ok found
  | argument :: rest =>
      if argument = "--" then .ok { found with operands := found.operands ++ rest }
      else match readOne found argument with
        | .error fault => .error fault
        | .ok (next, none) => readFrom next rest
        | .ok (next, some name) =>
            match rest with
            | [] => .error (.missingValue name)
            | value :: others => readFrom { next with config? := some value } others

def read (line : List String) : Except UsageFault Arguments := readFrom {} line

end Arguments

end Draftsman
