/-
# Draftsman.Value -- the values that descriptions and documents are made of

A description carries operands, names and annotations of any kind: everything a
JSON text can hold, and beyond it decimals, tuples, sets, primitives, classes and
patterns.  A dictionary keeps its members in order, with keys of any kind.

This module holds the type, the name of each kind, truth, the text behind a
value, its items and whether it can serve as a key.  Equality and written forms
have modules of their own.
-/
import Draftsman.Number.Decimal
import Draftsman.Primitive
import Draftsman.Pattern

namespace Draftsman

set_option autoImplicit false

/-- A value of any kind. -/
inductive Value where
  | null
  | bool (b : Bool)
  | int (n : Int)
  | float (x : Binary64)
  | str (s : String)
  | decimal (d : Decimal)
  | primitive (p : Primitive)
  | host (c : HostClass)
  | pattern (p : Pattern)
  | list (items : List Value)
  | tuple (items : List Value)
  | set (items : List Value)
  | dict (members : List (Value × Value))
  deriving Repr, Inhabited

/-- The members of a dictionary, in order. -/
abbrev Members := List (Value × Value)

namespace Value

def typeName : Value → String
  | null => "NoneType"
  | bool _ => "bool"
  | int _ => "int"
  | float _ => "float"
  | str _ => "str"
  | decimal _ => "Decimal"
  | primitive _ => "Primitive"
  | host _ => "type"
  | pattern _ => "Pattern"
  | list _ => "list"
  | tuple _ => "tuple"
  | set _ => "set"
  | dict _ => "dict"

/-- Null, the false truth value, zeros of every kind and empty texts and
collections count as false, all else as true. -/
def truthy : Value → Bool
  | null => false
  | bool b => b
  | int n => n != 0
  | float x => !x.isZero
  | str s => !s.isEmpty
  | decimal d => !d.isZero
  | primitive _ | host _ | pattern _ => true
  | list items | tuple items | set items => !items.isEmpty
  | dict members => !members.isEmpty

/-- The text of a value that is one; a primitive is the text of its name. -/
def text? : Value → Option String
  | str s => some s
  | primitive p => some p.name
  | _ => none

def isNull : Value → Bool
  | null => true
  | _ => false

/-- Whether a value stands for a number and is none. -/
def isNotNumber : Value → Bool
  | float (.nan _) | float .made | decimal (.nan _ _ _ _) => true
  | _ => false

/-- Whether a value is a decimal that cannot be compared with other numbers. -/
def isSignaling : Value → Bool
  | decimal d => d.isSignaling
  | _ => false

/-- The members of a dictionary; other values have none. -/
def members : Value → List (Value × Value)
  | dict members => members
  | _ => []

/-- The items that a value offers one after the other: the characters of a text,
the elements of a collection, the keys of a dictionary. -/
def items? : Value → Option (List Value)
  | str s => some (s.toList.map fun c => str (String.singleton c))
  | primitive p => some (p.name.toList.map fun c => str (String.singleton c))
  | list items | tuple items | set items => some items
  | dict members => some (members.map Prod.fst)
  | _ => none

mutual

/-- Whether a value can be a key: lists, sets and dictionaries cannot, nor can a
signaling not-a-number, nor a tuple that holds one of these. -/
def isKey : Value → Bool
  | list _ | set _ | dict _ => false
  | decimal d => !d.isSignaling
  | tuple items => areKeys items
  | _ => true

def areKeys : List Value → Bool
  | [] => true
  | v :: rest => isKey v && areKeys rest

end

/-- The primitive that a value stands for: itself, its name, or a class. -/
def toPrimitive? : Value → Option Primitive
  | primitive p => some p
  | str s => Primitive.ofName? s
  | host c => c.primitive?
  | _ => none

end Value

end Draftsman
