/-
# Draftsman.Vocabulary -- types and constraints in documents

Two tables fix what a description can say in a document: the members that stand
for each primitive, and the keyword of each predicate together with the way its
operand becomes the keyword's value.  Lists and texts share the predicates that
bound their size; `sizeRenaming` tells those of lists apart.

* `Primitive.entry`, `typeMembers?`: the type table;
* `constraint?`: the predicate table;
* `Reading.apply`: what an operand becomes, null where nothing is to be said.
-/
import Draftsman.Operand

namespace Draftsman

set_option autoImplicit false

/-- The members that stand for a primitive. -/
def Primitive.entry : Primitive → List (String × String)
  | .string => [("type", "string")]
  | .integer => [("type", "integer")]
  | .trueValue => [("type", "boolean")]
  | .falseValue => [("type", "boolean")]
  | .null => [("type", "null")]
  | .decimal => [("type", "number")]
  | .float => [("type", "number")]
  | .dict => [("type", "object")]
  | .list => [("type", "array")]
  | .date => [("type", "string"), ("format", "date")]
  | .datetime => [("type", "string"), ("format", "date-time")]
  | .time => [("type", "string"), ("format", "time")]

def Primitive.typeName (p : Primitive) : String :=
  match p.entry with
  | (_, name) :: _ => name
  | [] => ""

def typeMembers? (v : Value) : Option Members :=
  v.toPrimitive?.map fun p => p.entry.map fun member => (.str member.1, .str member.2)

/-- How an operand becomes the value of a keyword. -/
inductive Reading where
  | typeName
  | integer
  | number
  | patternText
  | items
  | exclusion
  | fixed (text : String)
  deriving DecidableEq, Repr

namespace Reading

/-- The value of a keyword for an operand; null where there is none. -/
def apply (reading : Reading) (operand : Value) : Except ConversionFault Value :=
  match reading with
  | typeName => .ok ((operand.toPrimitive?.map fun p => .str p.typeName).getD .null)
  | integer => (Operand.toInteger operand).map .int
  | number => Operand.toNumber operand
  | patternText => (Operand.toPatternText operand).map .str
  | items => (Operand.toItems operand).map .list
  | exclusion => (Operand.toItems operand).map fun items => .dict [(.str "enum", .list items)]
  | fixed text => .ok (.str text)

end Reading

structure Constraint where
  keyword : String
  reading : Reading
  deriving DecidableEq, Repr

def constraints : List (String × Constraint) :=
  [("type?", ⟨"type", .typeName⟩),
    ("min_size?", ⟨"minLength", .integer⟩),
    ("max_size?", ⟨"maxLength", .integer⟩),
    ("min_items?", ⟨"minItems", .integer⟩),
    ("max_items?", ⟨"maxItems", .integer⟩),
    ("gt?", ⟨"exclusiveMinimum", .number⟩),
    ("gteq?", ⟨"minimum", .number⟩),
    ("lt?", ⟨"exclusiveMaximum", .number⟩),
    ("lteq?", ⟨"maximum", .number⟩),
    ("format?", ⟨"format", .patternText⟩),
    ("included_in?", ⟨"enum", .items⟩),
    ("excluded_from?", ⟨"not", .exclusion⟩),
    ("eql?", ⟨"const", .number⟩),
    ("is?", ⟨"const", .number⟩),
    ("uri?", ⟨"format", .fixed "uri"⟩)]

def constraint? (name : String) : Option Constraint := constraints.lookup name

/-- The names under which a list's size is bounded. -/
def sizeRenaming (name : String) : String :=
  if name = "min_size?" then "min_items?"
  else if name = "max_size?" then "max_items?"
  else name

def dialect : String := "http://json-schema.org/draft-06/schema#"

end Draftsman
