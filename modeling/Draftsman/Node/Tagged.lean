/-
# Draftsman.Node.Tagged -- the tagged tree of a description

The tree of a node is a dictionary with the name of its kind, the fields of that kind
by name, and its notes.  The primitive of a type predicate is written as its name, and
so is that of a primitive type.  The function of a constructor has no written form.

* `Node.tagged` writes a description; `Node.load` reads what it writes.
-/
import Draftsman.Node.Kind

namespace Draftsman

set_option autoImplicit false

namespace Node

/-- A primitive as its name; any other value as it is. -/
def tagPrimitive : Value → Value
  | .primitive p => .str p.name
  | v => v

/-- The operand of a predicate: a type predicate names its primitive. -/
def tagOperand (name operand : Value) : Value :=
  if name.equal (.str "type?") then tagPrimitive operand else operand

/-- The dictionary of a node of some kind, with the fields of the kind and notes. -/
def tag (kind : NodeKind) (fields : List (String × Value)) (notes : Value) : Value :=
  .dict (Members.named (("kind", .str kind.name) :: fields ++ [("meta", notes)]))

mutual

/-- The tagged tree of a node.  A value in the place of a node stands as it is, and
nodes outside the twelve kinds are left out. -/
def tagged : Node → Value
  | nominal primitive notes => tag .nominal [("primitive", tagPrimitive primitive)] notes
  | constructor type _ notes => tag .constructor [("type", tagged type)] notes
  | constrained type rule notes =>
      tag .constrained [("type", tagged type), ("rule", tagged rule)] notes
  | predicate name operand notes =>
      tag .predicate [("name", name), ("operand", tagOperand name operand)] notes
  | sum types notes => tag .sum [("types", taggedChildren types)] notes
  | intersection left right notes =>
      tag .intersection [("left", tagged left), ("right", tagged right)] notes
  | mapping fields notes => tag .mapping [("schema", tagged fields)] notes
  | aggregate name fields notes =>
      tag .aggregate [("name", name), ("schema", tagged fields)] notes
  | array member notes => tag .array [("member", tagged member)] notes
  | schema keys notes => tag .schema [("keys", taggedChildren keys)] notes
  | key name type required notes =>
      tag .key [("name", name), ("type", tagged type), ("required", .bool required.truthy)] notes
  | enum type values notes =>
      tag .enum [("type", tagged type), ("values", taggedChildren values)] notes
  | lazy _ | bare _ => .null
  | plain v => v

def taggedChildren : Children → Value
  | .nodes items => .list (taggedEach items)
  | .value v => v

def taggedEach : List Node → List Value
  | [] => []
  | node :: rest => tagged node :: taggedEach rest

end

theorem taggedEach_eq_map (items : List Node) : taggedEach items = items.map tagged := by
  induction items with
  | nil => rfl
  | cons node rest ih => simp [taggedEach, ih]

end Node

end Draftsman
