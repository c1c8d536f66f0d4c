/-
# Draftsman.Node.Kind -- the twelve kinds by name

A tagged tree names the kind of each node.  `NodeKind.ofName?` finds the kind of a
name, `NodeKind.name` the name of a kind, and `Node.kind?` the kind of a node, if
it is one of the twelve.
-/
import Draftsman.Node

namespace Draftsman

set_option autoImplicit false

inductive NodeKind where
  | nominal
  | constructor
  | constrained
  | predicate
  | sum
  | intersection
  | mapping
  | aggregate
  | array
  | schema
  | key
  | enum
  deriving DecidableEq, Repr

namespace NodeKind

def all : List NodeKind :=
  [nominal, constructor, constrained, predicate, sum, intersection, mapping, aggregate,
    array, schema, key, enum]

def name : NodeKind → String
  | nominal => "nominal"
  | constructor => "constructor"
  | constrained => "constrained"
  | predicate => "predicate"
  | sum => "sum"
  | intersection => "intersection"
  | mapping => "mapping"
  | aggregate => "aggregate"
  | array => "array"
  | schema => "schema"
  | key => "key"
  | enum => "enum"

def ofName? (text : String) : Option NodeKind := all.find? fun kind => kind.name == text

theorem ofName?_name (kind : NodeKind) : ofName? kind.name = some kind := by
  cases kind <;> decide

theorem name_of_ofName? {text : String} {kind : NodeKind} (found : ofName? text = some kind) :
    kind.name = text := by
  simpa using List.find?_some found

end NodeKind

def Node.kind? : Node → Option NodeKind
  | nominal _ _ => some .nominal
  | constructor _ _ _ => some .constructor
  | constrained _ _ _ => some .constrained
  | predicate _ _ _ => some .predicate
  | sum _ _ => some .sum
  | intersection _ _ _ => some .intersection
  | mapping _ _ => some .mapping
  | aggregate _ _ _ => some .aggregate
  | array _ _ => some .array
  | schema _ _ => some .schema
  | key _ _ _ _ => some .key
  | enum _ _ _ => some .enum
  | lazy _ | bare _ | plain _ => none

end Draftsman
