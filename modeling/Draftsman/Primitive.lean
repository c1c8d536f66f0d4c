/-
# Draftsman.Primitive -- the concrete types and the classes that name them

A type description bottoms out in one of twelve primitives.  A host may also name
a primitive by its own name, or by one of the host's classes; `Primitive.ofName?`
and `HostClass.primitive?` say which.  Not every class names one.
-/

namespace Draftsman

set_option autoImplicit false

/-- The concrete types of a description. -/
inductive Primitive where
  | string
  | integer
  | trueValue
  | falseValue
  | null
  | decimal
  | float
  | dict
  | list
  | date
  | datetime
  | time
  deriving DecidableEq, Repr, Inhabited

namespace Primitive

def all : List Primitive :=
  [string, integer, trueValue, falseValue, null, decimal, float, dict, list, date,
    datetime, time]

def name : Primitive → String
  | string => "string"
  | integer => "integer"
  | trueValue => "true"
  | falseValue => "false"
  | null => "null"
  | decimal => "decimal"
  | float => "float"
  | dict => "dict"
  | list => "list"
  | date => "date"
  | datetime => "datetime"
  | time => "time"

def label (p : Primitive) : String :=
  "Primitive." ++ String.ofList (p.name.toList.map Char.toUpper)

def ofName? (text : String) : Option Primitive :=
  all.find? fun p => p.name == text

theorem mem_all (p : Primitive) : p ∈ all := by cases p <;> decide

theorem ofName?_name (p : Primitive) : ofName? p.name = some p := by
  cases p <;> decide

theorem name_of_ofName? {text : String} {p : Primitive} (found : ofName? text = some p) :
    p.name = text := by
  simpa using List.find?_some found

end Primitive

inductive HostClass where
  | text
  | integer
  | null
  | decimal
  | float
  | dict
  | list
  | date
  | datetime
  | time
  | boolean
  | tuple
  | object
  | bytes
  deriving DecidableEq, Repr, Inhabited

namespace HostClass

def all : List HostClass :=
  [text, integer, null, decimal, float, dict, list, date, datetime, time, boolean, tuple,
    object, bytes]

def name : HostClass → String
  | text => "str"
  | integer => "int"
  | null => "NoneType"
  | decimal => "Decimal"
  | float => "float"
  | dict => "dict"
  | list => "list"
  | date => "date"
  | datetime => "datetime"
  | time => "time"
  | boolean => "bool"
  | tuple => "tuple"
  | object => "object"
  | bytes => "bytes"

/-- The name of a class with the library that it belongs to. -/
def qualifiedName : HostClass → String
  | decimal => "decimal.Decimal"
  | date => "datetime.date"
  | datetime => "datetime.datetime"
  | time => "datetime.time"
  | c => c.name

def ofName? (text : String) : Option HostClass :=
  all.find? fun c => c.name == text

/-- The primitive that a class names.  Truth values, tuples, plain objects and
bytes name none. -/
def primitive? : HostClass → Option Primitive
  | text => some .string
  | integer => some .integer
  | null => some .null
  | decimal => some .decimal
  | float => some .float
  | dict => some .dict
  | list => some .list
  | date => some .date
  | datetime => some .datetime
  | time => some .time
  | boolean | tuple | object | bytes => none

end HostClass

end Draftsman
