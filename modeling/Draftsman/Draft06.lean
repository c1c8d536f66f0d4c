/-
# Draftsman.Draft06 -- which documents are schemas

A document is a schema of draft 06 when each of its keywords holds what the draft
asks for; members of other names may hold anything.  The rules are those of the
draft's own schema: `keywordRules` gives the rule of each keyword, and `faults`
follows them into every part that is a schema in turn.

A document is checked as the JSON text that it would be written as, so that a value
which only looks right -- a tuple, a decimal, a key that is no text -- is either
refused or judged by what it becomes.

* `Draft06.faults` lists what is wrong with a JSON value, in the order in which the
  draft's schema names its keywords;
* `Draft06.check` is the verdict on a document: the first fault counts.
-/
import Draftsman.Json.Writer
import Draftsman.Pattern.Grammar
import Draftsman.Failure

namespace Draftsman.Draft06

set_option autoImplicit false

inductive Fault where
  /-- It has no JSON text. -/
  | unwritable (reason : Json.Unwritable)
  /-- A keyword does not hold what the draft asks for. -/
  | invalid
  /-- A source has so many repetitions, or such flags, that it cannot even be
  judged. -/
  | badPattern (defect : Pattern.Defect)
  deriving DecidableEq, Repr

namespace Fault

def ofDefect : Pattern.Defect → Fault
  | .malformed => invalid
  | defect => badPattern defect

/-- Whether a fault ends the check where it is found. -/
def isFinal : Fault → Bool
  | badPattern _ => true
  | _ => false

/-- What the author of an invalid document is told. -/
def invalidText : String :=
  "Schema is not valid draft-06: a keyword does not hold what the draft asks for"

def failure : Fault → Failure
  | unwritable reason =>
      ⟨.invalidDocument, "Schema is not JSON serializable: " ++ reason.message⟩
  | invalid | badPattern .malformed => ⟨.invalidDocument, invalidText⟩
  | badPattern .tooManyRepeats => ⟨.outOfRange, Pattern.Defect.tooManyRepeats.message⟩
  | badPattern defect => ⟨.badValue, defect.message⟩

end Fault

/-! ## Rules for keywords -/

/-- What a keyword may hold. -/
inductive Rule where
  | text
  | number
  /-- A number greater than zero. -/
  | positive
  /-- An integer from zero on. -/
  | count
  | truthValue
  /-- The source of a pattern. -/
  | source
  | array
  /-- One type name, or several different ones. -/
  | typeNames
  | schema
  /-- Schemas, one at least. -/
  | schemas
  /-- A schema, or several. -/
  | schemaOrSchemas
  /-- A schema for each name. -/
  | schemaMap
  /-- A schema for each source of a pattern. -/
  | sourceMap
  /-- Different texts. -/
  | names
  /-- A schema or different texts for each name. -/
  | dependencies
  deriving DecidableEq, Repr

def keywordRules : List (String × Rule) :=
  [("$id", .text), ("$schema", .text), ("$ref", .text), ("title", .text),
    ("description", .text), ("examples", .array), ("multipleOf", .positive),
    ("maximum", .number), ("exclusiveMaximum", .number), ("minimum", .number),
    ("exclusiveMinimum", .number), ("maxLength", .count), ("minLength", .count),
    ("pattern", .source), ("additionalItems", .schema), ("items", .schemaOrSchemas),
    ("maxItems", .count), ("minItems", .count), ("uniqueItems", .truthValue),
    ("contains", .schema), ("maxProperties", .count), ("minProperties", .count),
    ("required", .names), ("additionalProperties", .schema), ("definitions", .schemaMap),
    ("properties", .schemaMap), ("patternProperties", .sourceMap),
    ("dependencies", .dependencies), ("propertyNames", .schema), ("enum", .array),
    ("type", .typeNames), ("format", .text), ("allOf", .schemas), ("anyOf", .schemas),
    ("oneOf", .schemas), ("not", .schema)]

def typeNames : List String :=
  ["array", "boolean", "integer", "null", "number", "object", "string"]

/-! ## Values that hold no schemas -/

/-- Whether a value is a number; truth values are none. -/
def isNumber : Value → Bool
  | .int _ | .float _ => true
  | _ => false

/-- Whether a value is a number that is not zero or less. -/
def isPositive : Value → Bool
  | .int n => 0 < n
  | .float (.nan _) | .float .made => true
  | .float (.infinite negative) => !negative
  | .float (.finite negative m _) => !negative && m != 0
  | _ => false

/-- Whether a value is an integer from zero on, as an integer or with a fraction of
zero. -/
def isCount : Value → Bool
  | .int n => 0 ≤ n
  | .float (.finite negative m q) =>
      (Binary64.finite negative m q).isIntegral && (!negative || m == 0)
  | _ => false

def texts? : List Value → Option (List String)
  | [] => some []
  | .str s :: rest => (texts? rest).map fun others => s :: others
  | _ :: _ => none

def isArray : Value → Bool
  | .list _ => true
  | _ => false

def isNames : Value → Bool
  | .list items => (texts? items).any fun texts => decide texts.Nodup
  | _ => false

def isTypeNames : Value → Bool
  | .str name => typeNames.contains name
  | .list items =>
      (texts? items).any fun texts =>
        !texts.isEmpty && texts.all typeNames.contains && decide texts.Nodup
  | _ => false

def demand (holds : Bool) : List Fault := if holds then [] else [.invalid]

def demandSource (text : String) : List Fault :=
  match Pattern.check text with
  | .ok () => []
  | .error defect => [.ofDefect defect]

def demandSources (members : List (Value × Value)) : List Fault :=
  members.flatMap fun member =>
    match member.1 with
    | .str name => demandSource name
    | _ => []

def leafFaults (rule : Rule) (v : Value) : List Fault :=
  match rule with
  | .number => demand (isNumber v)
  | .positive => demand (isPositive v)
  | .count => demand (isCount v)
  | .typeNames => demand (isTypeNames v)
  | .names => demand (isNames v)
  | .text =>
      match v with
      | .str _ => []
      | _ => [.invalid]
  | .truthValue =>
      match v with
      | .bool _ => []
      | _ => [.invalid]
  | .array => demand (isArray v)
  | .source =>
      match v with
      | .str text => demandSource text
      | _ => [.invalid]
  | _ => [.invalid]

/-- The fault of a value that has to keep one of two rules, from the faults under each
of them.  The second rule is looked at only if the first is broken, and a rule that is
looked at is followed to its end. -/
def either (first second : List Fault) : List Fault :=
  match first.find? Fault.isFinal, second.find? Fault.isFinal with
  | some fault, _ => [fault]
  | none, some fault => if first.isEmpty then [] else [fault]
  | none, none => demand (first.isEmpty || second.isEmpty)

/-! ## Schemas inside schemas -/

/-- The faults of some members, in the order of the keywords. -/
def inOrder (found : List (String × List Fault)) : List Fault :=
  keywordRules.flatMap fun keyword => (found.lookup keyword.1).getD []

mutual

/-- What is wrong with a value as a schema. -/
def faults : Value → List Fault
  | .bool _ => []
  | .dict members => inOrder (memberFaults members)
  | _ => [.invalid]

def memberFaults : List (Value × Value) → List (String × List Fault)
  | [] => []
  | (.str name, v) :: rest =>
      match keywordRules.lookup name with
      | none => memberFaults rest
      | some rule =>
          let own : List Fault :=
            match rule with
            | .schema => faults v
            | .schemas => schemasFaults v
            | .schemaOrSchemas => either (faults v) (schemasFaults v)
            | .schemaMap => mapFaults v
            | .sourceMap => mapFaults v ++ demandSources v.members
            | .dependencies => dependenciesFaults v
            | rule => leafFaults rule v
          (name, own) :: memberFaults rest
  | _ :: rest => memberFaults rest

def schemasFaults : Value → List Fault
  | .list [] => [.invalid]
  | .list items => eachFaults items
  | _ => [.invalid]

def eachFaults : List Value → List Fault
  | [] => []
  | v :: rest => faults v ++ eachFaults rest

def mapFaults : Value → List Fault
  | .dict members => valuesFaults members
  | _ => [.invalid]

def valuesFaults : List (Value × Value) → List Fault
  | [] => []
  | (_, v) :: rest => faults v ++ valuesFaults rest

def dependenciesFaults : Value → List Fault
  | .dict members => eachDependency members
  | _ => [.invalid]

def eachDependency : List (Value × Value) → List Fault
  | [] => []
  | (_, v) :: rest => either (faults v) (demand (isNames v)) ++ eachDependency rest

end

/-- The verdict on a document. -/
def check (document : Value) : Except Fault Unit :=
  match Json.settle document with
  | .ok settled =>
      match faults settled with
      | [] => .ok ()
      | first :: _ => .error first
  | .error reason => .error (.unwritable reason)

end Draftsman.Draft06
